import LoanDispatch.Proofs.ColumnMap.Registered

/-!
The lookups of a sound map agree.  The first column of a header, the first column of a path and the
last entry of a header are three searches; where headers are distinct and one path identifies
applications, they find the same columns.
-/

set_option autoImplicit false

namespace LoanDispatch.ColumnMap

variable {map : ColumnMap} {header path : String}

theorem length_identifierColumns (map : ColumnMap) :
    map.identifierColumns.length = (map.columns.map Column.path).count identifierPath := by
  rw [identifierColumns, ← List.countP_eq_length_filter, List.count, List.countP_map]
  rfl

/-- What the check of a map asks for. -/
theorem accepted_iff :
    map.problem? = none ↔
      Text.trim map.version ≠ "" ∧ map.columns ≠ [] ∧ map.headers.Nodup ∧
        (map.columns.map Column.path).count identifierPath = 1 := by
  rw [problem?_eq_none_iff, ← length_identifierColumns]
  constructor
  · intro sound
    exact ⟨sound.version_given, sound.columns_given, sound.headers_distinct, sound.one_identifier⟩
  · intro parts
    obtain ⟨version, columns, headers, identifier⟩ := parts
    exact ⟨version, columns, headers, identifier⟩

theorem mem_of_path?_eq_some (found : map.path? header = some path) :
    (⟨header, path⟩ : Column) ∈ map.columns := by
  obtain ⟨column, search, rfl⟩ := Option.map_eq_some_iff.mp found
  have named : column.header = header := by simpa using List.find?_some search
  subst named
  exact List.mem_of_find?_eq_some search

theorem Sound.path?_eq_some_iff (sound : map.Sound) :
    map.path? header = some path ↔ (⟨header, path⟩ : Column) ∈ map.columns :=
  ⟨mem_of_path?_eq_some, fun member => sound.path?_of_mem member⟩

theorem Sound.lookup_toEntries_of_mem (sound : map.Sound) {column : Column}
    (member : column ∈ map.columns) :
    Entries.lookup column.header map.toEntries = some column.path := by
  have distinct : ((map.columns.map fun column => (column.header, column.path)).map
      Prod.fst).Nodup := by
    rw [List.map_map]
    exact sound.headers_distinct
  exact Entries.lookup_merge_of_mem distinct (List.mem_map_of_mem member) []

/-- The entries of a sound map are its columns. -/
theorem Sound.lookup_toEntries_eq_some_iff (sound : map.Sound) :
    Entries.lookup header map.toEntries = some path ↔ (⟨header, path⟩ : Column) ∈ map.columns := by
  constructor
  · intro found
    by_cases present : header ∈ map.headers
    · obtain ⟨column, member, rfl⟩ := List.mem_map.mp present
      cases found.symm.trans (sound.lookup_toEntries_of_mem member)
      exact member
    · have absent : header ∉ (map.columns.map fun column => (column.header, column.path)).map
          Prod.fst := by
        rw [List.map_map]
        exact present
      cases found.symm.trans (Entries.lookup_merge_of_notMem absent [])
  · exact fun member => sound.lookup_toEntries_of_mem member

/-- The three lookups of a map find its columns, and one of them finds the identifier. -/
structure Coherent (map : ColumnMap) : Prop where
  by_header : ∀ header path,
    map.path? header = some path ↔ (⟨header, path⟩ : Column) ∈ map.columns
  by_entry : ∀ header path,
    Entries.lookup header map.toEntries = some path ↔ map.path? header = some path
  identifier : ∃ header,
    map.identifierHeader? = some header ∧ map.path? header = some identifierPath

theorem Sound.coherent (sound : map.Sound) : map.Coherent where
  by_header _ _ := sound.path?_eq_some_iff
  by_entry _ _ := sound.lookup_toEntries_eq_some_iff.trans sound.path?_eq_some_iff.symm
  identifier := by
    obtain ⟨header, _, named, path⟩ := sound.identifierHeader
    exact ⟨header, named, path⟩

end LoanDispatch.ColumnMap
