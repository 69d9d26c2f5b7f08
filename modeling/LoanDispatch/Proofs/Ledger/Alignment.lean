import LoanDispatch.Proofs.ColumnMap.Coherence
import LoanDispatch.Proofs.Ledger.Placement
import LoanDispatch.Proofs.Payload.RoundTrip
import Mathlib.Data.List.OfFn

/-!
The cells of a new row follow the headers of its sheet, in whatever order they stand and whatever
others stand between them.  The column that is searched for the identifier is the column that the
new row has it in, and it lies inside the range that the row is appended to.
-/

set_option autoImplicit false

namespace LoanDispatch.Ledger

open Spreadsheet

/-- What a sheet takes as a cell: a text, an integer, or a finite number. -/
inductive IsCell : Value → Prop where
  | text {cell : Value} : cell.isText = true → IsCell cell
  | int (number : Int) : IsCell (.int number)
  | float {number : Number.Binary64} : number.isFinite = true → IsCell (.float number)

theorem isCell_of_toCell {value cell : Value} (shown : value.toCell = .ok cell) : IsCell cell := by
  have document : ∀ written : Except Misfit Json,
      written.map (fun document => Value.text (document.write Json.compactAscii)) = .ok cell →
        IsCell cell := by
    intro written shown
    obtain ⟨words, _, rfl⟩ := Result.map_eq_ok shown
    exact .text rfl
  cases value with
  | int number =>
    cases shown
    exact .int number
  | float number =>
    rw [Value.toCell] at shown
    split at shown
    · next finite =>
      cases shown
      exact .float finite
    · cases shown
      exact .text rfl
  | list items => exact document _ shown
  | tuple items => exact document _ shown
  | map entries => exact document _ shown
  | record kind fields => exact document _ shown
  | _ =>
    cases shown
    exact .text rfl

theorem isCell_of_resolveCell {source cell : Value} {path : Option String}
    (shown : resolveCell source path = .ok cell) : IsCell cell := by
  cases path with
  | none =>
    cases shown
    exact .text rfl
  | some path =>
    rw [resolveCell] at shown
    split at shown
    · cases shown
      exact .text rfl
    · split at shown
      · exact isCell_of_toCell shown
      · cases shown

/-- The second headers and cells are the first ones with columns put in whose headers are not in the
map, and whose cells are empty. -/
inductive Widens (map : ColumnMap) :
    List String → List Value → List String → List Value → Prop where
  | nil : Widens map [] [] [] []
  | keep {headers wider : List String} {row widerRow : List Value} (header : String) (cell : Value) :
      Widens map headers row wider widerRow →
        Widens map (header :: headers) (cell :: row) (header :: wider) (cell :: widerRow)
  | put {headers wider : List String} {row widerRow : List Value} {header : String} :
      header ∉ map.headers → Widens map headers row wider widerRow →
        Widens map headers row (header :: wider) (.text "" :: widerRow)

section Row

variable {payload : Payload} {map : ColumnMap} {headers wider : List String}
  {row widerRow : List Value}

theorem path?_of_notMem {header : String} (unmapped : header ∉ map.headers) :
    map.path? header = none := by
  cases found : map.path? header with
  | none => rfl
  | some path =>
    exact absurd (List.mem_map_of_mem (ColumnMap.mem_of_path?_eq_some found)) unmapped

theorem Widens.buildRow (widens : Widens map headers row wider widerRow)
    (built : buildRow payload map headers = .ok row) :
    buildRow payload map wider = .ok widerRow := by
  rw [buildRow_eq_ok_iff] at built ⊢
  induction widens with
  | nil => exact .nil
  | keep header cell _ ih =>
    cases built with
    | cons shown rest => exact .cons shown (ih rest)
  | put unmapped _ ih =>
    refine .cons ?_ (ih built)
    rw [CellOf, path?_of_notMem unmapped, resolveCell]

theorem buildRow_reorder (built : buildRow payload map headers = .ok row)
    (aligned : headers.length = row.length) (order : Equiv.Perm (Fin headers.length)) :
    buildRow payload map (List.ofFn fun place => headers.get (order place))
      = .ok (List.ofFn fun place => row.get ((order place).cast aligned)) := by
  rw [buildRow_eq_ok_iff] at built ⊢
  refine List.forall₂_iff_get.mpr ⟨by simp, fun place inside _ => ?_⟩
  have inHeaders : place < headers.length := by simpa using inside
  have cells := built.get (order ⟨place, inHeaders⟩).isLt
    (aligned ▸ (order ⟨place, inHeaders⟩).isLt)
  simpa using cells

theorem columnIndex_letters (index : Nat) : columnIndex (letters index).toList = index := by
  simpa [letters] using columnIndex_lettersFrom index

theorem letters_zero : letters 0 = "A" := by
  simp [letters, lettersFrom, letterOf]

theorem appendCells_eq (headers : List String) :
    appendCells headers = letters 0 ++ ":" ++ letters (headers.length - 1) := by
  rw [appendCells, letters_zero]
  rfl

/-- How the row of a payload stands under the headers of a sheet. -/
structure Aligned (payload : Payload) (map : ColumnMap) (headers : List String)
    (row : List Value) : Prop where
  cells : List.Forall₂ (CellOf payload map) headers row
  /-- Reordered headers have the reordered cells. -/
  reordered : ∃ aligned : headers.length = row.length, ∀ order : Equiv.Perm (Fin headers.length),
    buildRow payload map (List.ofFn fun place => headers.get (order place))
      = .ok (List.ofFn fun place => row.get ((order place).cast aligned))
  /-- Further headers have empty cells. -/
  widened : ∀ wider widerRow, Widens map headers row wider widerRow →
    buildRow payload map wider = .ok widerRow
  plain : ∀ cell ∈ row, IsCell cell
  /-- The identifier stands in the column that is searched, within the columns that are written. -/
  identified : (∀ header ∈ map.headers, header ∈ headers) →
    row[identifierIndex map headers]? = some payload.application.id ∧
    columnIndex ((columnCells (identifierIndex map headers)).toList.takeWhile (· ≠ ':'))
      = identifierIndex map headers ∧
    appendCells headers = letters 0 ++ ":" ++ letters (headers.length - 1) ∧
    columnIndex (letters (headers.length - 1)).toList = headers.length - 1 ∧
    identifierIndex map headers ≤ headers.length - 1

theorem aligned_of_buildRow (sound : map.Sound) {id : String}
    (named : payload.application.id = .text id) (built : buildRow payload map headers = .ok row) :
    Aligned payload map headers row where
  cells := buildRow_eq_ok_iff.mp built
  reordered := by
    have aligned := (buildRow_eq_ok_iff.mp built).length_eq
    exact ⟨aligned, buildRow_reorder built aligned⟩
  widened _ _ widens := widens.buildRow built
  plain cell member := by
    obtain ⟨header, _, shown⟩ := Result.exists_of_mem_mapM built member
    exact isCell_of_resolveCell shown
  identified present := by
    obtain ⟨inside, stored⟩ := identifier_of_buildRow sound present named built
    exact ⟨named ▸ stored, columnIndex_columnCells _, appendCells_eq headers,
      columnIndex_letters _, by omega⟩

end Row

section Requests

variable {registry : Registry} {config : SheetConfig} {map : ColumnMap} {payload : Payload}

/-- The requests of a submission, each with the answers to the ones before it: the column that is
searched is the identifier column of the headers that were answered, and the row that is appended is
built for the same headers. -/
inductive Asks (config : SheetConfig) (map : ColumnMap) (payload : Payload) :
    List Value → SheetRequest → Prop where
  | titles : Asks config map payload [] (.titles config.spreadsheetId)
  | headerRow {titles title : Value} {range : String} :
      pickTitle titles config.sheetName = .ok title → addressIn title "1:1" = .ok range →
        Asks config map payload [titles] (.values config.spreadsheetId range)
  | identifiers {titles title rows : Value} {headers : List String} {range : String} :
      pickTitle titles config.sheetName = .ok title → headersOf rows = .ok headers →
      (∀ header ∈ map.headers, header ∈ headers) →
      addressIn title (columnCells (identifierIndex map headers)) = .ok range →
        Asks config map payload [titles, rows] (.values config.spreadsheetId range)
  | row {titles title rows cells : Value} {headers : List String} {range : String}
      {row : List Value} :
      pickTitle titles config.sheetName = .ok title → headersOf rows = .ok headers →
      (∀ header ∈ map.headers, header ∈ headers) → buildRow payload map headers = .ok row →
      addressIn title (appendCells headers) = .ok range →
        Asks config map payload [titles, rows, cells] (.append config.spreadsheetId range row)

/-- The terms of a submission whose state is the answers that it was given. -/
def askingTerms (config : SheetConfig) (map : ColumnMap) (payload : Payload) :
    Terms (List Value) where
  drift before after := after = before
  allowed request answers := Asks config map payload answers request
  answered _ before answer after := ∀ value, answer = .ok value → after = before ++ [value]

section Stages

variable {α β : Type} {terms : Terms (List Value)} {state : List Value}

theorem meets_ofFault {result : Except Fault α} {next : α → Script β}
    (goesOn : ∀ value, result = .ok value → (next value).Meets terms (fun _ _ => True) state) :
    (Script.ofFault result >>= next).Meets terms (fun _ _ => True) state := by
  cases result with
  | ok value => exact goesOn value rfl
  | error fault => exact trivial

theorem meets_ofMisfit {result : Except Misfit α} {next : α → Script β}
    (goesOn : ∀ value, result = .ok value → (next value).Meets terms (fun _ _ => True) state) :
    (Script.ofMisfit result >>= next).Meets terms (fun _ _ => True) state := by
  cases result with
  | ok value => exact goesOn value rfl
  | error misfit => exact trivial

theorem meets_ask {request : SheetRequest} {next : Value → Script β}
    (asks : Asks config map payload state request)
    (goesOn : ∀ value,
      (next value).Meets (askingTerms config map payload) (fun _ _ => True) (state ++ [value])) :
    (Script.sheet request (Script.onAnswer next)).Meets (askingTerms config map payload)
      (fun _ _ => True) state := by
  rintro _ rfl
  refine ⟨asks, fun answer after answered => ?_⟩
  cases answer with
  | ok value =>
    rw [answered value rfl]
    exact goesOn value
  | error fault => exact trivial

end Stages

theorem checkHeaders_eq_ok {title : Value} {headers : List String} {identifier : String}
    (checked : checkHeaders map title headers = .ok identifier) :
    (∀ header ∈ map.headers, header ∈ headers) ∧
      headers.idxOf identifier = identifierIndex map headers ∧ headers ≠ [] := by
  unfold checkHeaders at checked
  split at checked
  · cases checked
  · next given =>
    split at checked
    · next complete =>
      refine ⟨missingHeaders_eq_nil_iff.mp complete, ?_, ?_⟩
      · unfold identifierHeader at checked
        split at checked
        · cases checked
        · next header named =>
          split at checked
          · cases checked
            rw [identifierIndex, named, Option.getD_some]
          · cases checked
      · rintro rfl
        simp at given
    · cases checked

theorem appendRow_asks {titles title rows cells : Value} {headers : List String}
    (picked : pickTitle titles config.sheetName = .ok title) (shown : headersOf rows = .ok headers)
    (present : ∀ header ∈ map.headers, header ∈ headers) (filled : headers ≠ []) :
    (appendRow .plain map config payload title headers).Meets (askingTerms config map payload)
      (fun _ _ => True) [titles, rows, cells] := by
  refine meets_ofMisfit fun row built => meets_ofMisfit fun last lettered =>
    meets_ofMisfit fun range addressed => ?_
  have wide : 0 < headers.length := List.length_pos_iff.mpr filled
  have same : last = letters (headers.length - 1) := by
    rw [columnLetters, if_neg (by omega)] at lettered
    rw [← Except.ok.inj lettered]
    congr 1
    omega
  rw [same] at addressed
  simp only [Client.plain, Script.askSheet_bind]
  refine meets_ask (.row picked shown present built addressed) fun reported => ?_
  exact meets_ofMisfit fun reference _ => trivial

theorem place_asks (found : registry.get? config.columnMapVersion = some map) :
    (place (.ok .plain) registry config payload).Meets (askingTerms config map payload)
      (fun _ _ => True) [] := by
  rw [place_eq found]
  refine meets_ask .titles fun titles => meets_ofFault fun title picked =>
    meets_ofMisfit fun headerRange addressed => meets_ask (.headerRow picked addressed)
      fun rows => meets_ofMisfit fun headers shown => meets_ofFault fun identifier checked =>
        meets_ofMisfit fun columnRange columnAddressed => ?_
  obtain ⟨present, column, filled⟩ := checkHeaders_eq_ok (Result.mapError_eq_ok checked)
  rw [column] at columnAddressed
  refine meets_ask (.identifiers picked shown present columnAddressed) fun cells =>
    meets_ofMisfit fun existing _ => ?_
  cases existing with
  | some number => exact trivial
  | none => exact appendRow_asks picked shown present filled

theorem submit_asks (found : registry.get? config.columnMapVersion = some map) :
    (submit (.ok .plain) registry config payload).Meets (askingTerms config map payload)
      (fun _ _ => True) [] := by
  rw [submit_eq]
  intro start
  refine (Script.meets_andThen ..).mpr ?_
  exact (place_asks found).weaken fun result after _ => conclude_meets trivial

end Requests

/-- A payload that was read is laid out under every list of headers whose cells can be shown, one cell
for each header and the identifier under its own; and whatever a submission is answered, it searches
the column and writes the row of the headers that it was answered. -/
theorem rows_follow_headers {map : ColumnMap} {payload : Payload} {now : Calendar.DateTime}
    {source : Value} (accepted : map.problem? = none)
    (read : Payload.ofValue now source = .ok payload) :
    (∀ headers, (∀ header ∈ headers, ∃ cell, CellOf payload map header cell) →
      ∃ row, buildRow payload map headers = .ok row ∧ Aligned payload map headers row) ∧
    ∀ registry config, registry.get? config.columnMapVersion = some map →
      (submit (.ok .plain) registry config payload).Meets (askingTerms config map payload)
        (fun _ _ => True) [] := by
  have sound := (ColumnMap.problem?_eq_none_iff map).mp accepted
  obtain ⟨id, named⟩ := (Payload.settled_of_ofValue read).application.id
  refine ⟨fun headers shown => ?_, fun registry config found => submit_asks found⟩
  obtain ⟨row, built⟩ := exists_buildRow_of_shown shown
  exact ⟨row, built, aligned_of_buildRow sound named built⟩

def productMap : ColumnMap :=
  ⟨"v9", [⟨"ID", identifierPath⟩, ⟨"Product", "application.product_type"⟩]⟩

def queued : Value :=
  .map [("application", .map [("id", .text "A-1"), ("product_type", .text "term")])]

def queuedPayload : Payload where
  application :=
    ⟨.text "A-1", .text "", .null, .map [], .text "term", .null, .null, .null⟩
  documents := []
  submittedAt := .dateTime (Payload.smallMoment .utc)

/-- A column of the sheet's own stands between the mapped ones, which have changed places. -/
theorem notes_column_is_empty :
    productMap.problem? = none ∧
      Payload.ofValue (Payload.smallMoment .utc) queued = .ok queuedPayload ∧
      ∃ row, buildRow queuedPayload productMap ["Product", "Notes", "ID"] = .ok row ∧
        row[2]? = some (.text "A-1") := by
  have accepted : productMap.problem? = none := by decide +kernel
  have read : Payload.ofValue (Payload.smallMoment .utc) queued = .ok queuedPayload := rfl
  obtain ⟨layouts, _⟩ := rows_follow_headers accepted read
  have shown : ∀ header ∈ ["Product", "Notes", "ID"],
      ∃ cell, CellOf queuedPayload productMap header cell := by
    intro header member
    simp only [List.mem_cons, List.not_mem_nil, or_false] at member
    rcases member with rfl | rfl | rfl
    · exact ⟨.text "term", rfl⟩
    · exact ⟨.text "", rfl⟩
    · exact ⟨.text "A-1", rfl⟩
  obtain ⟨row, built, aligned⟩ := layouts _ shown
  obtain ⟨stored, _⟩ := aligned.identified (by decide)
  exact ⟨accepted, read, row, built, stored⟩

end LoanDispatch.Ledger
