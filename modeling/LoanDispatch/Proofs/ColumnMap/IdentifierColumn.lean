import LoanDispatch.Proofs.ColumnMap.Coherence
import LoanDispatch.Proofs.FieldPath.Segments

/-!
The columns that hold the identifier of the application.  The check of a map compares path texts,
and resolving goes by segments, so a map that is accepted has one column with the identifier path,
and further columns hold the identifier exactly when they spell that path with empty segments.
-/

set_option autoImplicit false

namespace LoanDispatch.ColumnMap

open FieldPath

variable {map : ColumnMap} {column : Column}

theorem Sound.exists_identifierColumn (sound : map.Sound) :
    ∃ header, map.identifierHeader? = some header ∧
      ∀ column, column ∈ map.columns ∧ column.path = identifierPath ↔
        column = ⟨header, identifierPath⟩ := by
  obtain ⟨header, _, named, path⟩ := sound.identifierHeader
  have placed : (⟨header, identifierPath⟩ : Column) ∈ map.identifierColumns :=
    List.mem_filter.mpr ⟨mem_of_path?_eq_some path, by simp⟩
  obtain ⟨only, shape⟩ := List.length_eq_one_iff.mp sound.one_identifier
  refine ⟨header, named, fun column => ⟨?_, ?_⟩⟩
  · rintro ⟨member, same⟩
    have listed : column ∈ map.identifierColumns := List.mem_filter.mpr ⟨member, by simp [same]⟩
    rw [shape, List.mem_singleton] at listed placed
    rw [listed, placed]
  · rintro rfl
    exact ⟨mem_of_path?_eq_some path, rfl⟩

theorem identifies_identifierPath : Identifies identifierPath := fun _ => rfl

/-- An accepted map has exactly one column with the identifier path, which is the column that the
identifier header names, and it holds the identifier of every application.  A path leads to the
identifier exactly when, without its empty segments, it is that path; so no other column holds it, as
long as none spells the path in such a way. -/
theorem identifier_column_is_named (accepted : map.problem? = none) :
    ∃ header, map.identifierHeader? = some header ∧
      (∀ column, column ∈ map.columns ∧ column.path = identifierPath ↔
        column = ⟨header, identifierPath⟩) ∧
      Identifies identifierPath ∧
      (∀ path, Identifies path ↔ filledSegments path = filledSegments identifierPath) ∧
      ((∀ column, column ∈ map.columns ∧ Identifies column.path ↔
          column = ⟨header, identifierPath⟩) ↔
        ∀ column ∈ map.columns,
          filledSegments column.path = filledSegments identifierPath →
            column.path = identifierPath) := by
  have sound := (problem?_eq_none_iff map).mp accepted
  obtain ⟨header, named, unique⟩ := sound.exists_identifierColumn
  refine ⟨header, named, unique, identifies_identifierPath, fun path => identifies_iff, ?_⟩
  constructor
  · intro only column member spelled
    rw [(only column).mp ⟨member, identifies_iff.mpr spelled⟩]
  · intro respelled column
    constructor
    · rintro ⟨member, holds⟩
      exact (unique column).mp ⟨member, respelled column member (identifies_iff.mp holds)⟩
    · rintro rfl
      exact ⟨((unique _).mpr rfl).1, identifies_identifierPath⟩

/-- A column with another path does not hold the identifier. -/
theorem name_column_differs :
    let map : ColumnMap := ⟨"v9", [⟨"ID", identifierPath⟩, ⟨"Name", "application.name"⟩]⟩
    map.problem? = none ∧
      ∀ column, column ∈ map.columns ∧ Identifies column.path ↔
        column = ⟨"ID", identifierPath⟩ := by
  intro map
  have accepted : map.problem? = none := by decide +kernel
  obtain ⟨header, named, _, _, _, only⟩ := identifier_column_is_named accepted
  cases named.symm.trans (show map.identifierHeader? = some "ID" from rfl)
  exact ⟨accepted, only.mpr (by decide)⟩

def respelledMap : ColumnMap := ⟨"v9", [⟨"ID", identifierPath⟩, ⟨"Copy", "application..id"⟩]⟩

/-- A path with an empty segment is not the identifier path, so the map is accepted, though both of
its columns hold the identifier. -/
theorem respelled_identifier_is_held_twice :
    respelledMap.problem? = none ∧
      (∀ column ∈ respelledMap.columns, Identifies column.path) ∧
      ¬ ∃! column, column ∈ respelledMap.columns ∧ Identifies column.path := by
  have holds : ∀ column ∈ respelledMap.columns, Identifies column.path := fun column member =>
    identifies_of_filledSegments
      ((by decide : ∀ column ∈ respelledMap.columns,
        filledSegments column.path = ["application", "id"]) column member)
  refine ⟨by decide +kernel, holds, ?_⟩
  intro unique
  have same : (⟨"ID", identifierPath⟩ : Column) = ⟨"Copy", "application..id"⟩ :=
    unique.unique ⟨by decide, holds _ (by decide)⟩ ⟨by decide, holds _ (by decide)⟩
  exact absurd same (by decide)

end LoanDispatch.ColumnMap
