import LoanDispatch.Proofs.Ledger.Refinement
import LoanDispatch.Proofs.Ledger.Sequence

/-!
The reference of an appended row.  A later submission finds the row by the identifier in it, so it is
told the number that the row has.  The submission that appends it only reads the reported range, and
says the same number exactly when the title of the tab does not interfere.
-/

set_option autoImplicit false

namespace LoanDispatch.Ledger

open Spreadsheet

/-- A service reports the range of a row, in the tab with a title. -/
def ReportsRow (title : String) (row : Nat) (reported : Value) : Prop :=
  ∃ first last : CellName, first.row = row ∧ reported = .text (address title (cellRange first last))

/-- The order goes to a tab that it fits, has no row there, and asks for these cells. -/
structure Order.IsNew (registry : Registry) (map : ColumnMap) (book : Workbook) (tab : Tab)
    (cells : List Value) (order : Order) : Prop where
  suits : order.Suits registry map book tab
  fits : Fits map (headerTexts tab)
  legible : Legible map tab order.payload.application.id
  absent : ∀ row ∈ dataRows tab, ¬ Own map tab order.mark row
  built : buildRow order.payload map (headerTexts tab) = .ok cells

/-- The outcome of a row that was appended, and of one that stands already. -/
def appendedAs (row : Nat) : Outcome :=
  .succeeded .appended (.text "Application appended to Google Sheet.") (.text (toString row))

def duplicateOf (row : Nat) : Outcome :=
  .succeeded .duplicate (.text "Application already exists in sheet.") (.text (toString row))

/-- What a submission says of the row that it appended to a tab: the number that is read from the
reported range, which may be another one or none at all. -/
def appendOutcome (title : String) (row : Nat) : Outcome :=
  match readRow title row with
  | .ok number =>
    .succeeded .appended (.text "Application appended to Google Sheet.") (.text (toString number))
  | .error cause => .failed .error .sheetError false (failureDetail (.misfit cause))

section Reference

variable {title : String} {row : Nat} {reported : Value}

theorem referenceOf_range (reports : ReportsRow title row reported) :
    referenceOf reported = (readRow title row).map fun number => .text (toString number) := by
  obtain ⟨first, last, rfl, rfl⟩ := reports
  rw [referenceOf, reportedRow?_range]
  cases readRow title first.row <;> rfl

theorem outcomeOf_reported (reports : ReportsRow title row reported) :
    outcomeOf (match referenceOf reported with
        | .ok reference => .ok (.appended (.text title) reported reference)
        | .error cause => .error (.misfit cause))
      = .ok (appendOutcome title row) := by
  rw [referenceOf_range reports, appendOutcome]
  cases readRow title row with
  | ok number => rfl
  | error cause => exact outcomeOf_misfit cause

theorem appendOutcome_eq_iff : appendOutcome title row = appendedAs row ↔ ReadsRow title row := by
  rw [← readRow_eq_iff, appendOutcome, appendedAs]
  cases read : readRow title row with
  | error cause => simp [Outcome.succeeded, Outcome.failed]
  | ok number =>
    obtain ⟨other, rfl⟩ := natural_of_readRow read
    constructor
    · intro same
      have texts : toString (other : Int) = toString row := by
        simpa [Outcome.succeeded] using same
      have equal : other = row := Number.toString_inj.mp texts
      rw [equal]
    · intro same
      cases same
      rfl

end Reference

section Run

variable {σ : Type} {around : Surroundings σ} {book : σ → Workbook} {registry : Registry}
  {map : ColumnMap} {tab : Tab} {order : Order} {cells : List Value} {contexts : Log.Contexts}
  {world : World σ} {began : Workbook}

/-- The row of a new order is the first with its mark, and it stays so. -/
theorem Order.IsNew.firstMarked (new : order.IsNew registry map began tab cells)
    (reachable : registry.Reachable) (more : List (List Value)) :
    FirstMarked (tab.extend (cells :: more)) (identifierIndex map (headerTexts tab)) order.mark
      (tab.rows.length + 1) := by
  have filled := rows_ne_nil_of_fits new.fits
  have mine : carries (identifierIndex map (headerTexts tab)) order.mark cells = true := by
    obtain ⟨id, named⟩ := new.suits.textual
    have sound := reachable.sound (Registry.mem_of_get? new.suits.aims.map_found)
    rw [carries_buildRow sound new.fits named new.built, Order.mark, named, cellWords_text]
    exact beq_self_eq_true _
  have before : (dataRows tab).findIdx? (carries (identifierIndex map (headerTexts tab)) order.mark)
      = none := by
    simpa [Own] using new.absent
  have length : (dataRows tab).length + 1 = tab.rows.length := by
    rw [dataRows, List.length_tail]
    exact Nat.sub_add_cancel (List.length_pos_of_ne_nil filled)
  apply markedRow?_eq_some_iff.mp
  rw [markedRow?, dataRows_extend filled, List.findIdx?_append, before, List.findIdx?_cons,
    if_pos mine, ← length]
  simp

/-- The identifier in the row of a new order prints, and what stands above it does. -/
theorem Order.IsNew.legible_extend (new : order.IsNew registry map began tab cells)
    (reachable : registry.Reachable) (more : List (List Value)) :
    Legible map (tab.extend (cells :: more)) order.payload.application.id := by
  obtain ⟨id, named⟩ := new.suits.textual
  have sound := reachable.sound (Registry.mem_of_get? new.suits.aims.map_found)
  obtain ⟨_, stored⟩ := identifier_of_buildRow sound new.fits.present named new.built
  have mine : carries (identifierIndex map (headerTexts tab)) (cellWords (.text id)) cells = true := by
    rw [carries_buildRow sound new.fits named new.built, cellWords_text]
    exact beq_self_eq_true _
  refine new.legible.extend (rows_ne_nil_of_fits new.fits) fun _ => printsTo_cons.mpr ⟨?_, ?_⟩
  · simp [smudged, stored, Value.holdsLong]
  · intro unmarked
    rw [named, mine] at unmarked
    cases unmarked

/-- A new order adds its row, and its outcome is what can be read from the title and the row. -/
theorem run_new (reachable : registry.Reachable) (serves : Serves around book)
    (new : order.IsNew registry map (book world.state) tab cells)
    (answered : (order.script registry).Along around
      (fun _ request answer _ => AnsweredWith (ReportsRow tab.title (tab.rows.length + 1))
        request answer) contexts world) :
    book ((order.script registry).run around contexts world).2.2.state
        = (book world.state).extend tab.title [cells] ∧
      ((order.script registry).run around contexts world).1
        = .ok (appendOutcome tab.title (tab.rows.length + 1)) := by
  obtain ⟨placement, calls, finds, _, result⟩ :=
    submit_found reachable new.suits.aims.map_found serves answered
  obtain ⟨reported, reports, stored, rfl⟩ :=
    finds.of_new new.suits.aims.tab_found new.fits new.legible new.absent new.built
  exact ⟨stored, result.trans (outcomeOf_reported reports)⟩

theorem run_again {again : Order} {more : List (List Value)} (reachable : registry.Reachable)
    (serves : Serves around book) (new : order.IsNew registry map began tab cells)
    (same : again.mark = order.mark)
    (suits : again.Suits registry map (book world.state) (tab.extend (cells :: more)))
    (answered : (again.script registry).Along around
      (fun _ _ answer _ => ∃ value, answer = .ok value) contexts world) :
    ((again.script registry).run around contexts world).1
      = .ok (duplicateOf (tab.rows.length + 1)) := by
  have headers : headerTexts (tab.extend (cells :: more)) = headerTexts tab :=
    headerTexts_extend (rows_ne_nil_of_fits new.fits) _
  have first := new.firstMarked reachable more
  rw [← headers, ← same] at first
  obtain ⟨id, named⟩ := suits.textual
  have legible := (new.legible_extend reachable more).of_same (by rw [named]; rfl) same
  exact (run_marked reachable serves suits (headers ▸ new.fits) legible first answered).1

/-- The row of a range is read back, and an appended row is referred to by its number, exactly when
the title of the tab has no reference to another row.  Later submissions of the application are told
the number in any case. -/
theorem appended_row_is_referenced (reachable : registry.Reachable) (serves : Serves around book)
    (new : order.IsNew registry map (book world.state) tab cells)
    (answered : (order.script registry).Along around
      (fun _ request answer _ => AnsweredWith (ReportsRow tab.title (tab.rows.length + 1))
        request answer) contexts world) :
    let run := (order.script registry).run around contexts world
    (∀ (title : String) (first last : CellName),
      reportedRow? (.text (address title (cellRange first last))) = .ok (some first.row) ↔
        ReadsRow title first.row) ∧
    book run.2.2.state = (book world.state).extend tab.title [cells] ∧
    (run.1 = .ok (appendedAs (tab.rows.length + 1)) ↔
      ReadsRow tab.title (tab.rows.length + 1)) ∧
    ∀ (again : Order) (more : List (List Value)) (later : World σ), again.mark = order.mark →
      again.Suits registry map (book later.state) (tab.extend (cells :: more)) →
      (again.script registry).Along around (fun _ _ answer _ => ∃ value, answer = .ok value)
        contexts later →
      ((again.script registry).run around contexts later).1
        = .ok (duplicateOf (tab.rows.length + 1)) := by
  intro run
  obtain ⟨stored, outcome⟩ := run_new reachable serves new answered
  refine ⟨fun title first last => reportedRow?_eq_iff, stored, ?_, ?_⟩
  · rw [← appendOutcome_eq_iff, outcome, Except.ok.injEq]
  · exact fun again more later same suits told => run_again reachable serves new same suits told

end Run

/-! A tab with any title and nothing but the header of the identifiers. -/

def headedTab (title : String) : Tab := ⟨title, [[.text "ID"]]⟩

/-- The range that is reported for the row below the header. -/
def secondRow (title : String) : String :=
  address title (cellRange ⟨0, 2, true, true⟩ ⟨0, 2, true, true⟩)

def secondRowSurroundings (title : String) : Surroundings Workbook :=
  smallSurroundings ⟨false, [], some (.text (secondRow title)), []⟩

section Headed

variable (title : String)

theorem headedTab_fits : Fits smallMap (headerTexts (headedTab title)) :=
  ⟨⟨"ID", List.mem_singleton_self "ID", by decide⟩, fun _ member => member⟩

theorem headedTab_new : (smallOrder "A-1").IsNew smallRegistry smallMap ⟨[headedTab title]⟩
    (headedTab title) [.text "A-1"] where
  suits := ⟨⟨smallMap_found, rfl⟩, "A-1", rfl⟩
  fits := headedTab_fits title
  legible := ⟨List.forall_mem_singleton.mpr rfl, rfl, printsTo_nil⟩
  absent := fun _ member => absurd member List.not_mem_nil
  built := rfl

theorem headedTab_serves : Serves (secondRowSurroundings title) id := Service.serves rfl rfl _

theorem headedTab_answered (script : Script Outcome) (contexts : Log.Contexts)
    (world : World Workbook) :
    script.Along (secondRowSurroundings title)
      (fun _ request answer _ =>
        AnsweredWith (ReportsRow (headedTab title).title ((headedTab title).rows.length + 1)) request
          answer) contexts world := by
  refine (answered_reporting script contexts world).imp fun before request told => ?_
  obtain ⟨value, same, reported⟩ := told
  refine ⟨value, same, fun named => ⟨⟨0, 2, true, true⟩, ⟨0, 2, true, true⟩, rfl, ?_⟩⟩
  exact reported named

theorem headedTab_answers (script : Script Outcome) (contexts : Log.Contexts)
    (world : World Workbook) :
    script.Along (secondRowSurroundings title) (fun _ _ answer _ => ∃ value, answer = .ok value)
      contexts world :=
  (headedTab_answered title script contexts world).imp
    fun _ _ told => told.imp fun _ given => given.1

/-- A title with quotes and an exclamation mark does no harm without a number behind it. -/
theorem quoted_title_is_referenced :
    (smallOrder "A-1").IsNew smallRegistry smallMap ⟨[headedTab "Bob's Q!A"]⟩
        (headedTab "Bob's Q!A") [.text "A-1"] ∧
      (((smallOrder "A-1").script smallRegistry).run (secondRowSurroundings "Bob's Q!A") []
        (World.fresh ⟨[headedTab "Bob's Q!A"]⟩ 0)).1 = .ok (appendedAs 2) := by
  have new := headedTab_new "Bob's Q!A"
  obtain ⟨_, _, named, _⟩ := @appended_row_is_referenced _ _ _ _ _ _ _ _ []
    (World.fresh ⟨[headedTab "Bob's Q!A"]⟩ 0) smallRegistry_reachable
    (headedTab_serves "Bob's Q!A") new (headedTab_answered "Bob's Q!A" _ _ _)
  have plain : rowDigits? "Bob's Q!A".toList = none := by decide +kernel
  have few : (toString 2).length ≤ Number.maxIntegerDigits := by decide
  exact ⟨new, named.mpr (.own (rowDigits?_eq_none_iff.mp plain) few)⟩

/-- The title `Q!A5` hides the row behind it: row 2 is appended and reported, and said to be row 5,
while the next submission of the application is told row 2. -/
theorem title_hides_row :
    let around := secondRowSurroundings "Q!A5"
    let run := ((smallOrder "A-1").script smallRegistry).run around []
      (World.fresh ⟨[headedTab "Q!A5"]⟩ 0)
    reportedRow? (.text (secondRow "Q!A5")) = .ok (some 5) ∧
    run.2.2.state = Workbook.extend "Q!A5" [[.text "A-1"]] ⟨[headedTab "Q!A5"]⟩ ∧
    run.1 = .ok (appendedAs 5) ∧
    (((smallOrder "A-1").script smallRegistry).run around [] run.2.2).1 = .ok (duplicateOf 2) := by
  intro around run
  have five : readRow "Q!A5" 2 = .ok 5 := by
    have found : rowDigits? "Q!A5".toList = some (toString 5).toList := by decide +kernel
    rw [readRow, found]
    exact @Number.readInteger_toString 5 (by decide)
  have new := headedTab_new "Q!A5"
  have serves := headedTab_serves "Q!A5"
  have misread : appendOutcome "Q!A5" 2 = appendedAs 5 := by
    rw [appendOutcome, five]
    rfl
  obtain ⟨stored, outcome⟩ := @run_new _ _ _ _ _ _ _ _ [] (World.fresh ⟨[headedTab "Q!A5"]⟩ 0)
    smallRegistry_reachable serves new (headedTab_answered "Q!A5" _ _ _)
  refine ⟨?_, stored, outcome.trans (congrArg Except.ok misread), ?_⟩
  · rw [secondRow, reportedRow?_range, five]
    rfl
  · exact @run_again _ around id _ _ _ _ _ [] run.2.2 _ (smallOrder "A-1") []
      smallRegistry_reachable serves new rfl (new.suits.grow stored)
      (headedTab_answers "Q!A5" _ _ _)

end Headed

end LoanDispatch.Ledger
