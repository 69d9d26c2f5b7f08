import LoanDispatch.Proofs.Ledger.Layout
import LoanDispatch.Proofs.Result.Steps

/-!
The row that a submission appends has one cell for each header, and under the identifier header it
has the identifier of the application, as it is.
-/

set_option autoImplicit false

namespace LoanDispatch.Ledger

variable {payload : Payload} {map : ColumnMap} {headers : List String} {row : List Value}

/-- The cell that a header asks for. -/
def CellOf (payload : Payload) (map : ColumnMap) (header : String) (cell : Value) : Prop :=
  resolveCell payload.toValue (map.path? header) = .ok cell

/-- A row is built exactly when its cells are the ones that the headers ask for. -/
theorem buildRow_eq_ok_iff :
    buildRow payload map headers = .ok row ↔ List.Forall₂ (CellOf payload map) headers row :=
  Result.mapM_eq_ok_iff

theorem exists_buildRow_of_shown
    (shown : ∀ header ∈ headers, ∃ cell, CellOf payload map header cell) :
    ∃ row, buildRow payload map headers = .ok row := by
  induction headers with
  | nil => exact ⟨[], buildRow_eq_ok_iff.mpr .nil⟩
  | cons header rest ih =>
    obtain ⟨cell, first⟩ := shown header List.mem_cons_self
    obtain ⟨row, built⟩ := ih fun other member => shown other (List.mem_cons_of_mem _ member)
    exact ⟨cell :: row, buildRow_eq_ok_iff.mpr (.cons first (buildRow_eq_ok_iff.mp built))⟩

theorem exists_buildRow
    (mapped : ∀ header ∈ map.headers, ∃ cell, CellOf payload map header cell)
    (headers : List String) : ∃ row, buildRow payload map headers = .ok row := by
  refine exists_buildRow_of_shown fun header _ => ?_
  cases found : map.columns.find? (fun column => column.header == header) with
  | none => exact ⟨.text "", by simp [CellOf, ColumnMap.path?, found, resolveCell]⟩
  | some column =>
    have same : column.header = header := by simpa using List.find?_some found
    exact mapped header (same ▸ List.mem_map_of_mem (List.mem_of_find?_eq_some found))

theorem resolve_identifierPath (payload : Payload) :
    FieldPath.resolve payload.toValue identifierPath = .ok payload.application.id := rfl

theorem cellOf_identifier {id : String} (named : payload.application.id = .text id)
    {header : String} (path : map.path? header = some identifierPath) {cell : Value}
    (shown : CellOf payload map header cell) : cell = .text id := by
  have resolved : resolveCell payload.toValue (some identifierPath) = .ok (.text id) := by
    simp only [resolveCell, resolve_identifierPath, named]
    rfl
  rw [CellOf, path, resolved] at shown
  cases shown
  rfl

theorem identifier_of_buildRow (sound : map.Sound)
    (present : ∀ header ∈ map.headers, header ∈ headers) {id : String}
    (named : payload.application.id = .text id) (built : buildRow payload map headers = .ok row) :
    identifierIndex map headers < headers.length ∧
      row[identifierIndex map headers]? = some (.text id) := by
  obtain ⟨identifier, mapped, header, path⟩ := sound.identifierHeader
  have inside : identifierIndex map headers < headers.length := by
    rw [identifierIndex, header, Option.getD_some]
    exact List.idxOf_lt_length_of_mem (present identifier mapped)
  have cells := buildRow_eq_ok_iff.mp built
  have inRow : identifierIndex map headers < row.length := cells.length_eq ▸ inside
  have shown := cells.get inside inRow
  have sought : headers.get ⟨identifierIndex map headers, inside⟩ = identifier := by
    simp [identifierIndex, header]
  rw [sought] at shown
  refine ⟨inside, ?_⟩
  rw [List.getElem?_eq_getElem inRow]
  exact congrArg some (cellOf_identifier named path shown)

/-- A built row carries the identifier of its application in the identifier column, and no other
mark there. -/
theorem carries_buildRow (sound : map.Sound) (fits : Fits map headers) {id : String}
    (named : payload.application.id = .text id) (built : buildRow payload map headers = .ok row)
    (mark : String) :
    carries (identifierIndex map headers) mark row = (Text.trim id == mark) := by
  obtain ⟨_, stored⟩ := identifier_of_buildRow sound fits.present named built
  simp [carries, stored, cellWords_text]

end LoanDispatch.Ledger
