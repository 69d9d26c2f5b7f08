import LoanDispatch.Ledger.SheetConfig
import LoanDispatch.Ledger.Layout
import LoanDispatch.Proofs.ColumnMap.Registered
import LoanDispatch.Proofs.Result.Steps
import LoanDispatch.Proofs.Spreadsheet.Workbook

/-!
What the steps of a submission find in a ledger tab, said about the tab itself: its header texts, the
rows below them, the column that holds identifiers, and the first row that carries an identifier.
A cell whose words are too long to print is found by none of them.
-/

set_option autoImplicit false

namespace LoanDispatch.Ledger

open Spreadsheet

/-- The words of a cell without blanks around them, whether they print or not. -/
def cellWords : Value → String
  | .null => ""
  | cell => Text.trim cell.display

/-- The texts of the first row. -/
def headerTexts (tab : Tab) : List String := (tab.rows.headD []).map cellWords

/-- The rows below the headers. -/
def dataRows (tab : Tab) : List (List Value) := tab.rows.tail

/-- The row has a cell with this text in a column. -/
def carries (index : Nat) (mark : String) (row : List Value) : Bool :=
  (row[index]?).any fun cell => cellWords cell == mark

/-- The row has a cell in a column that does not print. -/
def smudged (index : Nat) (row : List Value) : Bool := (row[index]?).any Value.holdsLong

/-- The cells of a column print, down to the first one with a mark. -/
def PrintsTo (index : Nat) (mark : String) (rows : List (List Value)) : Prop :=
  ∀ above row below, rows = above ++ row :: below →
    (∀ earlier ∈ above, carries index mark earlier = false) → smudged index row = false

/-- The headers can be used with a map: one of them is not blank, and each header of the map is among
them. -/
structure Fits (map : ColumnMap) (headers : List String) : Prop where
  given : ∃ header ∈ headers, header ≠ ""
  present : ∀ header ∈ map.headers, header ∈ headers

/-- The column that holds the identifiers: the first one under their header. -/
def identifierIndex (map : ColumnMap) (headers : List String) : Nat :=
  headers.idxOf (map.identifierHeader?.getD "")

/-- What a submission reads prints: the headers of the tab, the identifier that is looked for, and the
identifier column down to the row where it is found. -/
structure Legible (map : ColumnMap) (tab : Tab) (id : Value) : Prop where
  headers : ∀ cell ∈ tab.rows.headD [], cell.holdsLong = false
  sought : id.holdsLong = false
  column : PrintsTo (identifierIndex map (headerTexts tab)) (cellWords id) (dataRows tab)

/-- The row with this number, counted from one, is the first row below the headers that carries a
mark. -/
structure FirstMarked (tab : Tab) (index : Nat) (mark : String) (number : Nat) : Prop where
  below : 2 ≤ number
  marked : ∃ row, tab.rows[number - 1]? = some row ∧ carries index mark row = true
  first : ∀ earlier, 2 ≤ earlier → earlier < number → ∀ row, tab.rows[earlier - 1]? = some row →
    carries index mark row = false

/-- The tab that a configuration is about: the requested one, or the first one when none is
requested. -/
def SheetConfig.tab? (config : SheetConfig) (book : Workbook) : Option Tab :=
  if config.sheetName.getD "" = "" then book.tabs.head?
  else book.tab? (config.sheetName.getD "")

section Tabs

variable {config : SheetConfig} {book : Workbook} {tab : Tab}

theorem SheetConfig.found_of_tab? (picked : config.tab? book = some tab) :
    book.tab? tab.title = some tab := by
  unfold SheetConfig.tab? at picked
  split at picked
  · obtain ⟨rest, shape⟩ := List.head?_eq_some_iff.mp picked
    simp [Workbook.tab?, shape]
  · rw [Workbook.title_of_tab? picked]
    exact picked

theorem SheetConfig.tab?_extend (picked : config.tab? book = some tab)
    (rows : List (List Value)) :
    config.tab? (book.extend tab.title rows) = some (tab.extend rows) := by
  have found := Workbook.tab?_extend (found_of_tab? picked) rows
  unfold SheetConfig.tab? at picked ⊢
  split at picked
  · next unnamed =>
    rw [if_pos unnamed]
    obtain ⟨rest, shape⟩ := List.head?_eq_some_iff.mp picked
    simp [Workbook.extend, shape, extendTabs]
  · next named =>
    rw [if_neg named, ← Workbook.title_of_tab? picked]
    exact found

private theorem includes_titles (book : Workbook) (name : String) :
    (Value.list (book.titles.map .text)).includes name = .ok (book.tab? name).isSome := by
  simp only [Value.includes, Workbook.titles, Workbook.tab?, List.any_map, Except.ok.injEq]
  rw [Bool.eq_iff_iff]
  simp [Value.text?]

theorem pickTitle_of_tab? (picked : config.tab? book = some tab) :
    pickTitle (.list (book.titles.map .text)) config.sheetName = .ok (.text tab.title) := by
  unfold SheetConfig.tab? at picked
  split at picked
  · next unnamed =>
    obtain ⟨rest, shape⟩ := List.head?_eq_some_iff.mp picked
    simp [pickTitle, unnamed, Workbook.titles, shape, Value.isGiven, Value.first, Value.sequence?]
  · next named =>
    have title := Workbook.title_of_tab? picked
    simp [pickTitle, named, includes_titles, picked, title]

theorem pickTitle_of_no_tab (absent : config.tab? book = none) :
    ∃ problem, pickTitle (.list (book.titles.map .text)) config.sheetName
      = .error (.layout problem) := by
  unfold SheetConfig.tab? at absent
  split at absent
  · next unnamed =>
    have empty : book.tabs = [] := by simpa using absent
    exact ⟨.noTab, by simp [pickTitle, unnamed, Workbook.titles, empty, Value.isGiven]⟩
  · next named =>
    exact ⟨.tabNotFound (.text (config.sheetName.getD "")),
      by simp [pickTitle, named, includes_titles, absent]⟩

end Tabs

section Cells

theorem cellText_of_prints {cell : Value} (prints : cell.holdsLong = false) :
    cellText cell = .ok (cellWords cell) := by
  cases cell with
  | null => rfl
  | _ => simp only [cellText, Value.printed, prints, cellWords]; rfl

theorem cellText_of_long {cell : Value} (long : cell.holdsLong = true) :
    cellText cell = .error (.unprintable Number.maxIntegerDigits) := by
  cases cell with
  | null => cases long
  | _ => simp only [cellText, Value.printed, long]; rfl

theorem cellText_eq_ok_iff {cell : Value} {words : String} :
    cellText cell = .ok words ↔ cell.holdsLong = false ∧ cellWords cell = words := by
  cases long : cell.holdsLong with
  | true => simp [cellText_of_long long]
  | false => simp [cellText_of_prints long]

theorem cellWords_text (words : String) : cellWords (.text words) = Text.trim words := rfl

/-- Cells that print are read as their words, and one that does not ends the reading. -/
theorem mapM_cellText (cells : List Value) :
    ((∀ cell ∈ cells, cell.holdsLong = false) → cells.mapM cellText = .ok (cells.map cellWords)) ∧
    (¬ (∀ cell ∈ cells, cell.holdsLong = false) → ∃ cause, cells.mapM cellText = .error cause) := by
  constructor
  · intro prints
    refine Result.mapM_eq_ok_iff.mpr ?_
    rw [List.forall₂_map_right_iff, List.forall₂_same]
    exact fun cell member => cellText_of_prints (prints cell member)
  · intro smudge
    cases read : cells.mapM cellText with
    | error cause => exact ⟨cause, rfl⟩
    | ok words =>
      refine absurd (fun cell member => ?_) smudge
      obtain ⟨shown, text⟩ := Result.exists_of_mapM_eq_ok read member
      exact (cellText_eq_ok_iff.mp text).1

end Cells

section Headers

variable {map : ColumnMap} {tab : Tab} {headers : List String}

theorem headersOf_firstRow_eq (tab : Tab) :
    headersOf (.list (tab.firstRow.map .list)) = (tab.rows.headD []).mapM cellText := by
  cases shape : tab.rows with
  | nil => simp [headersOf, Tab.firstRow, shape, Value.isGiven]; rfl
  | cons row rest => simp [headersOf, Tab.firstRow, shape, Value.isGiven]; rfl

theorem headersOf_firstRow (prints : ∀ cell ∈ tab.rows.headD [], cell.holdsLong = false) :
    headersOf (.list (tab.firstRow.map .list)) = .ok (headerTexts tab) :=
  (headersOf_firstRow_eq tab).trans ((mapM_cellText _).1 prints)

theorem headersOf_smudged (smudge : ¬ ∀ cell ∈ tab.rows.headD [], cell.holdsLong = false) :
    ∃ cause, headersOf (.list (tab.firstRow.map .list)) = .error cause := by
  rw [headersOf_firstRow_eq]
  exact (mapM_cellText _).2 smudge

theorem rows_ne_nil_of_fits (fits : Fits map (headerTexts tab)) : tab.rows ≠ [] := by
  intro empty
  obtain ⟨header, member, _⟩ := fits.given
  simp [headerTexts, empty] at member

theorem headerTexts_extend (filled : tab.rows ≠ []) (rows : List (List Value)) :
    headerTexts (tab.extend rows) = headerTexts tab := by
  cases shape : tab.rows with
  | nil => exact absurd shape filled
  | cons row rest => simp [headerTexts, Tab.extend, shape]

theorem dataRows_extend (filled : tab.rows ≠ []) (rows : List (List Value)) :
    dataRows (tab.extend rows) = dataRows tab ++ rows := by
  cases shape : tab.rows with
  | nil => exact absurd shape filled
  | cons row rest => simp [dataRows, Tab.extend, shape]

theorem missingHeaders_eq_nil_iff :
    missingHeaders map headers = [] ↔ ∀ header ∈ map.headers, header ∈ headers := by
  simp [missingHeaders, List.filter_eq_nil_iff]

theorem checkHeaders_of_fits (sound : map.Sound) (fits : Fits map headers) (title : Value) :
    ∃ identifier, checkHeaders map title headers = .ok identifier ∧
      headers.idxOf identifier = identifierIndex map headers := by
  obtain ⟨identifier, mapped, named, _⟩ := sound.identifierHeader
  have member := fits.present identifier mapped
  have filled : (headers.all fun header => header == "") = false := by
    obtain ⟨header, placed, given⟩ := fits.given
    exact List.all_eq_false.mpr ⟨header, placed, by simpa using given⟩
  refine ⟨identifier, ?_, by rw [identifierIndex, named, Option.getD_some]⟩
  simp [checkHeaders, filled, missingHeaders_eq_nil_iff.mpr fits.present, identifierHeader, named,
    member]

theorem checkHeaders_of_not_fits (misfits : ¬ Fits map headers) (title : Value) :
    ∃ problem, checkHeaders map title headers = .error problem := by
  unfold checkHeaders
  split
  · exact ⟨_, rfl⟩
  · next filled =>
    split
    · next complete =>
      obtain ⟨header, member, given⟩ := List.all_eq_false.mp (Bool.eq_false_iff.mpr filled)
      exact absurd
        ⟨⟨header, member, by simpa using given⟩, missingHeaders_eq_nil_iff.mp complete⟩ misfits
    · exact ⟨_, rfl⟩

end Headers

section Scan

variable {index : Nat} {mark : String}

theorem printsTo_nil : PrintsTo index mark [] := by
  intro above row below shape
  exact absurd shape.symm (List.append_ne_nil_of_right_ne_nil above (List.cons_ne_nil row below))

theorem printsTo_cons {row : List Value} {rest : List (List Value)} :
    PrintsTo index mark (row :: rest) ↔
      smudged index row = false ∧ (carries index mark row = false → PrintsTo index mark rest) := by
  constructor
  · intro prints
    refine ⟨prints [] row rest rfl nofun, fun unmarked above other below shape none => ?_⟩
    refine prints (row :: above) other below (by rw [shape, List.cons_append]) ?_
    exact List.forall_mem_cons.mpr ⟨unmarked, none⟩
  · intro prints above other below shape none
    obtain ⟨own, later⟩ := prints
    cases above with
    | nil =>
      cases shape
      exact own
    | cons first above =>
      rw [List.cons_append, List.cons.injEq] at shape
      obtain ⟨rfl, shape⟩ := shape
      obtain ⟨unmarked, others⟩ := List.forall_mem_cons.mp none
      exact later unmarked above other below shape others

theorem printsTo_append {front back : List (List Value)} :
    PrintsTo index mark (front ++ back) ↔ PrintsTo index mark front ∧
      ((∀ row ∈ front, carries index mark row = false) → PrintsTo index mark back) := by
  induction front with
  | nil => simp [printsTo_nil]
  | cons row front ih =>
    rw [List.cons_append, printsTo_cons, printsTo_cons, ih, List.forall_mem_cons]
    tauto

/-- The search gives the first row with the mark, unless it meets a cell that does not print. -/
private theorem findRow_column (index : Nat) (mark : String) (number : Nat)
    (rows : List (List Value)) :
    (PrintsTo index mark rows →
      findRow mark number (rows.map fun row => .list (row[index]?).toList)
        = .ok ((rows.findIdx? (carries index mark)).map (· + number))) ∧
    (¬ PrintsTo index mark rows →
      ∃ cause, findRow mark number (rows.map fun row => .list (row[index]?).toList)
        = .error cause) := by
  induction rows generalizing number with
  | nil => exact ⟨fun _ => rfl, fun smudge => absurd printsTo_nil smudge⟩
  | cons row rest ih =>
    have shifted : ((rest.findIdx? (carries index mark)).map (· + 1)).map (· + number)
        = (rest.findIdx? (carries index mark)).map (· + (number + 1)) := by
      rw [Option.map_map]
      congr 1
      funext offset
      simp only [Function.comp_apply]
      omega
    rw [List.map_cons, findRow, List.findIdx?_cons, printsTo_cons]
    cases cell : row[index]? with
    | none => simpa [carries, smudged, cell, Value.isGiven, shifted] using ih (number + 1)
    | some value =>
      have first : (Value.list [value]).first = .ok value := rfl
      cases long : value.holdsLong with
      | true =>
        simp [smudged, cell, long, Value.isGiven, first, cellText_of_long long, bind, Except.bind]
      | false =>
        by_cases same : cellWords value = mark
        · simp [carries, smudged, cell, long, same, Value.isGiven, first, cellText_of_prints long,
            bind, Except.bind, pure, Except.pure]
        · simpa [carries, smudged, cell, long, same, Value.isGiven, first,
            cellText_of_prints long, bind, Except.bind, shifted] using ih (number + 1)

def markedRow? (tab : Tab) (index : Nat) (mark : String) : Option Nat :=
  ((dataRows tab).findIdx? (carries index mark)).map (· + 2)

private theorem existingRow_column_eq (tab : Tab) (index : Nat) {id : Value}
    (sought : id.holdsLong = false) :
    existingRow (.list ((tab.column index).map .list)) id
      = findRow (cellWords id) 2 ((dataRows tab).map fun row => .list (row[index]?).toList) := by
  have items : (((tab.column index).map Value.list).tail)
      = (dataRows tab).map fun row => .list (row[index]?).toList := by
    rw [Tab.column, dataRows, List.map_map, List.map_tail]
    rfl
  rw [existingRow, cellText_of_prints sought]
  simp only [Value.afterFirst, Value.sequence?, items]
  rfl

theorem existingRow_column {tab : Tab} {id : Value} (sought : id.holdsLong = false)
    (prints : PrintsTo index (cellWords id) (dataRows tab)) :
    existingRow (.list ((tab.column index).map .list)) id
      = .ok (markedRow? tab index (cellWords id)) :=
  (existingRow_column_eq tab index sought).trans ((findRow_column ..).1 prints)

theorem existingRow_smudged {tab : Tab} {id : Value}
    (smudge : ¬ (id.holdsLong = false ∧ PrintsTo index (cellWords id) (dataRows tab))) :
    ∃ cause, existingRow (.list ((tab.column index).map .list)) id = .error cause := by
  cases long : id.holdsLong with
  | true => exact ⟨_, by rw [existingRow, cellText_of_long long]; rfl⟩
  | false =>
    rw [existingRow_column_eq tab index long]
    exact (findRow_column ..).2 fun prints => smudge ⟨long, prints⟩

theorem markedRow?_eq_some_iff {tab : Tab} {number : Nat} :
    markedRow? tab index mark = some number ↔ FirstMarked tab index mark number := by
  have placed : ∀ offset : Nat, (dataRows tab)[offset]? = tab.rows[offset + 1]? := by
    intro offset
    rw [dataRows, List.getElem?_tail]
  unfold markedRow?
  constructor
  · intro found
    obtain ⟨offset, search, rfl⟩ := Option.map_eq_some_iff.mp found
    obtain ⟨inside, hit, before⟩ := List.findIdx?_eq_some_iff_getElem.mp search
    refine ⟨by omega, ⟨(dataRows tab)[offset], ?_, hit⟩, ?_⟩
    · rw [show offset + 2 - 1 = offset + 1 by omega, ← placed]
      exact List.getElem?_eq_getElem inside
    · intro earlier low high row at_
      obtain ⟨position, rfl⟩ : ∃ position, earlier = position + 2 := ⟨earlier - 2, by omega⟩
      rw [show position + 2 - 1 = position + 1 by omega, ← placed] at at_
      obtain ⟨within, rfl⟩ := List.getElem?_eq_some_iff.mp at_
      simpa using before position (by omega)
  · intro firstMarked
    obtain ⟨below, ⟨row, at_, hit⟩, first⟩ := firstMarked
    obtain ⟨offset, rfl⟩ : ∃ offset, number = offset + 2 := ⟨number - 2, by omega⟩
    rw [show offset + 2 - 1 = offset + 1 by omega, ← placed] at at_
    obtain ⟨inside, rfl⟩ := List.getElem?_eq_some_iff.mp at_
    refine Option.map_eq_some_iff.mpr
      ⟨offset, List.findIdx?_eq_some_iff_getElem.mpr ⟨inside, hit, fun position low => ?_⟩, rfl⟩
    have within : position < (dataRows tab).length := by omega
    have unmarked := first (position + 2) (by omega) (by omega) (dataRows tab)[position]
      (by
        rw [show position + 2 - 1 = position + 1 by omega, ← placed]
        exact List.getElem?_eq_getElem within)
    simpa using unmarked

theorem FirstMarked.unique {tab : Tab} {number other : Nat}
    (one : FirstMarked tab index mark number) (two : FirstMarked tab index mark other) :
    number = other :=
  Option.some.inj ((markedRow?_eq_some_iff.mpr one).symm.trans (markedRow?_eq_some_iff.mpr two))

theorem FirstMarked.extend {tab : Tab} {number : Nat} (first : FirstMarked tab index mark number)
    (rows : List (List Value)) : FirstMarked (tab.extend rows) index mark number := by
  have filled : tab.rows ≠ [] := by
    obtain ⟨row, placed, _⟩ := first.marked
    intro empty
    simp [empty] at placed
  have scanned := markedRow?_eq_some_iff.mpr first
  obtain ⟨offset, search, rfl⟩ := Option.map_eq_some_iff.mp scanned
  refine markedRow?_eq_some_iff.mp ?_
  rw [markedRow?, dataRows_extend filled, List.findIdx?_append, search]
  rfl

theorem FirstMarked.exists_row {tab : Tab} {number : Nat}
    (first : FirstMarked tab index mark number) :
    ∃ row ∈ dataRows tab, carries index mark row = true := by
  obtain ⟨row, placed, marked⟩ := first.marked
  refine ⟨row, ?_, marked⟩
  have below := first.below
  rw [dataRows, List.mem_iff_getElem?]
  exact ⟨number - 2, by rw [List.getElem?_tail, ← placed]; congr 1; omega⟩

theorem markedRow?_eq_none_iff {tab : Tab} :
    markedRow? tab index mark = none ↔ ∀ row ∈ dataRows tab, carries index mark row = false := by
  simp [markedRow?]

end Scan

section Legible

variable {map : ColumnMap} {tab : Tab} {id : Value}

theorem Legible.of_same {other : Value} (legible : Legible map tab id)
    (prints : other.holdsLong = false) (same : cellWords other = cellWords id) :
    Legible map tab other :=
  ⟨legible.headers, prints, same ▸ legible.column⟩

/-- The rows that are added below need not print once the identifier is found above them. -/
theorem Legible.extend (legible : Legible map tab id) (filled : tab.rows ≠ [])
    {rows : List (List Value)}
    (prints : (∀ row ∈ dataRows tab,
        carries (identifierIndex map (headerTexts tab)) (cellWords id) row = false) →
      PrintsTo (identifierIndex map (headerTexts tab)) (cellWords id) rows) :
    Legible map (tab.extend rows) id := by
  refine ⟨?_, legible.sought, ?_⟩
  · cases shape : tab.rows with
    | nil => exact absurd shape filled
    | cons first rest => simpa [Tab.extend, shape] using legible.headers
  · rw [headerTexts_extend filled, dataRows_extend filled]
    exact printsTo_append.mpr ⟨legible.column, prints⟩

theorem Legible.extend_of_found (legible : Legible map tab id) {number : Nat}
    (first : FirstMarked tab (identifierIndex map (headerTexts tab)) (cellWords id) number)
    (rows : List (List Value)) : Legible map (tab.extend rows) id := by
  obtain ⟨row, member, marked⟩ := first.exists_row
  have filled : tab.rows ≠ [] := by
    intro empty
    simp [dataRows, empty] at member
  refine legible.extend filled fun unmarked => ?_
  rw [unmarked row member] at marked
  cases marked

end Legible

end LoanDispatch.Ledger
