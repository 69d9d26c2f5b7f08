import LoanDispatch.Proofs.Ledger.Placement

/-!
Orders.  An order is a submission to be made to a tab; its mark is the text of its identifier without
blanks around it.  The rows that carry a mark are counted, and an order that appends only where
there is none of its own leaves at most one more than none.
-/

set_option autoImplicit false

namespace LoanDispatch.Ledger

open Spreadsheet

/-- The number of rows below the headers of the tab with a title that carry a mark in a column. -/
def copies (title : String) (index : Nat) (mark : String) (book : Workbook) : Nat :=
  ((book.tab? title).map fun tab => (dataRows tab).countP (carries index mark)).getD 0

section Copies

variable {book : Workbook} {tab : Tab} {title mark : String} {index : Nat}

theorem copies_extend (found : book.tab? title = some tab) (filled : tab.rows ≠ [])
    (rows : List (List Value)) :
    copies title index mark (book.extend title rows)
      = copies title index mark book + rows.countP (carries index mark) := by
  simp [copies, found, Workbook.tab?_extend found, dataRows_extend filled]

theorem copies_eq_zero (absent : ¬ HasRow title (fun row => carries index mark row = true) book) :
    copies title index mark book = 0 := by
  cases found : book.tab? title with
  | none => simp [copies, found]
  | some tab =>
    simp only [copies, found, Option.map_some, Option.getD_some, List.countP_eq_zero]
    exact fun row member marked => absent ⟨tab, found, row, member, marked⟩

/-- What an order appends to a tab of a workbook: one row at most, which carries its mark, and only
where no such row stands yet. -/
structure Appends (title : String) (index : Nat) (mark : String) (book : Workbook)
    (rows : List (List Value)) : Prop where
  single : rows.length ≤ 1
  marked : ∀ row ∈ rows, carries index mark row = true
  absent : rows ≠ [] → ¬ HasRow title (fun row => carries index mark row = true) book

theorem Appends.nil : Appends title index mark book [] :=
  ⟨Nat.zero_le 1, fun _ member => absurd member List.not_mem_nil, fun filled => absurd rfl filled⟩

theorem carries_unique {row : List Value} {other : String} (one : carries index mark row = true)
    (two : carries index other row = true) : mark = other := by
  cases cell : row[index]? with
  | none => simp [carries, cell] at one
  | some value =>
    have first : cellWords value = mark := by simpa [carries, cell] using one
    have second : cellWords value = other := by simpa [carries, cell] using two
    exact first.symm.trans second

theorem Appends.copies_le {rows : List (List Value)} (appends : Appends title index mark book rows)
    (found : book.tab? title = some tab) (filled : tab.rows ≠ []) (other : String) :
    copies title index other (book.extend title rows) ≤ max 1 (copies title index other book) := by
  rw [copies_extend found filled]
  have few : rows.countP (carries index other) ≤ 1 := Nat.le_trans List.countP_le_length appends.single
  by_cases hit : rows.countP (carries index other) = 0
  · omega
  · obtain ⟨row, member, carried⟩ := List.countP_pos_iff.mp (Nat.pos_of_ne_zero hit)
    obtain rfl := carries_unique (appends.marked row member) carried
    have none : copies title index mark book = 0 :=
      copies_eq_zero (appends.absent (List.ne_nil_of_mem member))
    omega

end Copies

structure Order where
  config : SheetConfig
  payload : Payload

namespace Order

def mark (order : Order) : String := cellWords order.payload.application.id

def script (registry : Registry) (order : Order) : Script Outcome :=
  submit (.ok .plain) registry order.config order.payload

/-- The order goes to a tab of a workbook, uses a map there, and its identifier is a text. -/
structure Suits (registry : Registry) (map : ColumnMap) (book : Workbook) (tab : Tab)
    (order : Order) : Prop where
  aims : Aims registry order.config map book tab
  textual : ∃ id, order.payload.application.id = .text id

theorem Suits.grow {registry : Registry} {map : ColumnMap} {book later : Workbook} {tab : Tab}
    {order : Order} (suits : order.Suits registry map book tab) {rows : List (List Value)}
    (grown : later = book.extend tab.title rows) :
    order.Suits registry map later (tab.extend rows) := by
  subst grown
  exact ⟨suits.aims.extend rows, suits.textual⟩

/-- The script goes on as the script of an order may: under the shared terms, and ending in success
only when a row with the order's mark stands in the tab. -/
def Keeps (map : ColumnMap) (tab : Tab) (others : List Value → Prop) (order : Order)
    (script : Script Outcome) (standing : Standing) : Prop :=
  script.Meets (sharedTerms tab.title others (Own map tab order.mark))
    (Placed tab.title (Own map tab order.mark) fun outcome => outcome.success = true) standing

theorem script_keeps {registry : Registry} {map : ColumnMap} {book : Workbook} {tab : Tab}
    {order : Order} (reachable : registry.Reachable) (suits : order.Suits registry map book tab)
    (filled : tab.rows ≠ []) (others : List Value → Prop) (rows : List (List Value)) :
    order.Keeps map tab others (order.script registry) ⟨book.extend tab.title rows, 0⟩ := by
  obtain ⟨id, named⟩ := suits.textual
  have mark : order.mark = Text.trim id := by rw [Order.mark, named, cellWords_text]
  have sound := reachable.sound (Registry.mem_of_get? suits.aims.map_found)
  rw [Keeps, mark]
  exact submit_meets sound suits.aims filled named rows

end Order

/-- The rows that a request of an order appends: one at most, with the order's mark, by the fourth
request, and only where there is none when the others append no such rows. -/
structure Added (map : ColumnMap) (tab : Tab) (others : List Value → Prop) (order : Order)
    (standing : Standing) (rows : List (List Value)) : Prop where
  single : rows.length ≤ 1
  marked : ∀ row ∈ rows, Own map tab order.mark row
  fourth : rows ≠ [] → standing.made = 3
  absent : rows ≠ [] → (∀ row, others row → ¬ Own map tab order.mark row) →
    ¬ HasRow tab.title (Own map tab order.mark) standing.book

section Requests

variable {map : ColumnMap} {tab : Tab} {others : List Value → Prop} {order : Order}
  {standing : Standing} {rows : List (List Value)}

theorem Added.nil : Added map tab others order standing [] :=
  ⟨Nat.zero_le 1, fun _ member => absurd member List.not_mem_nil, fun filled => absurd rfl filled,
    fun filled => absurd rfl filled⟩

theorem Added.appends (added : Added map tab others order standing rows)
    (apart : ∀ row, others row → ¬ Own map tab order.mark row) :
    Appends tab.title (identifierIndex map (headerTexts tab)) order.mark standing.book rows :=
  ⟨added.single, added.marked, fun given => added.absent given apart⟩

theorem Added.of_allowed {request : SheetRequest} {answer : Except Fault Value} {after : Workbook}
    (allowed : (sharedTerms tab.title others (Own map tab order.mark)).allowed request standing)
    (answers : Workbook.Answers request standing.book answer after) :
    ∃ rows, Added map tab others order standing rows ∧
      after = standing.book.extend tab.title rows := by
  rcases answers.book_after with same | ⟨spreadsheetId, range, row, rfl, grown⟩
  · exact ⟨[], .nil, by rw [same, Workbook.extend_nil]⟩
  · obtain ⟨⟨cells, plain, rfl⟩, mine, fourth, absent⟩ := allowed _ _ _ rfl
    refine ⟨[row], ⟨Nat.le_refl 1, ?_, fun _ => fourth, fun _ => absent⟩, ?_⟩
    · exact fun _ member => List.mem_singleton.mp member ▸ mine
    · rw [grown, Workbook.append_address plain]

end Requests

/-! The smallest ledger: one tab with one column, under the header of the identifiers. -/

def smallMap : ColumnMap := ⟨"small", [⟨"ID", identifierPath⟩]⟩

def smallRegistry : Registry := Registry.builtin.put smallMap

def smallTab (ids : List String) : Tab :=
  ⟨"Ledger", [.text "ID"] :: ids.map fun id => [.text id]⟩

def smallBook (ids : List String) : Workbook := ⟨[smallTab ids]⟩

def smallOrder (id : String) : Order :=
  ⟨⟨"sheet-1", "small", none⟩, ⟨Application.ofFields [("id", .text id)], [], .null⟩⟩

def smallSurroundings (service : Service) : Surroundings Workbook :=
  ⟨service.answer, fun _ book => (.error (.misfit .wrongArguments), book)⟩

theorem smallMap_sound : smallMap.Sound :=
  (ColumnMap.problem?_eq_none_iff smallMap).mp (by decide +kernel)

theorem smallRegistry_reachable : smallRegistry.Reachable := .put .builtin smallMap_sound

theorem smallMap_found : smallRegistry.get? "small" = some smallMap := by decide +kernel

theorem smallTab_fits (ids : List String) : Fits smallMap (headerTexts (smallTab ids)) :=
  ⟨⟨"ID", List.mem_singleton_self "ID", by decide⟩, fun _ member => member⟩

theorem smallTab_column (ids : List String) :
    identifierIndex smallMap (headerTexts (smallTab ids)) = 0 := by
  have headers : headerTexts (smallTab ids) = ["ID"] := rfl
  rw [headers]
  decide +kernel

theorem smallTab_legible (id : String) (ids : List String) :
    Legible smallMap (smallTab ids) (.text id) where
  headers := List.forall_mem_singleton.mpr rfl
  sought := rfl
  column above row below shape _ := by
    have member : row ∈ dataRows (smallTab ids) := by
      rw [shape]
      exact List.mem_append_right above List.mem_cons_self
    obtain ⟨other, _, rfl⟩ := List.mem_map.mp member
    rw [smallTab_column]
    rfl

theorem smallTab_found (ids : List String) :
    (smallBook ids).tab? (smallTab ids).title = some (smallTab ids) := by
  simp [Workbook.tab?, smallBook]

theorem smallOrder_suits (id : String) (ids : List String) :
    (smallOrder id).Suits smallRegistry smallMap (smallBook ids) (smallTab ids) :=
  ⟨⟨smallMap_found, rfl⟩, id, rfl⟩

end LoanDispatch.Ledger
