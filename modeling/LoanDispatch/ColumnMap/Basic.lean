import LoanDispatch.Entries
import LoanDispatch.Fault.Problem
import LoanDispatch.Text.Blank

/-!
Column maps.  A column map pairs the headers of a sheet with paths into a payload.  A sound map has
a version, at least one column, no header twice, and exactly one column for the identifier of the
application: `problem?_eq_none_iff` says that the check asks for nothing else.
-/

set_option autoImplicit false

namespace LoanDispatch

structure Column where
  header : String
  path : String
  deriving DecidableEq

structure ColumnMap where
  version : String
  columns : List Column
  deriving DecidableEq

namespace ColumnMap

def headers (map : ColumnMap) : List String := map.columns.map Column.header

/-- The path of a header; the first column counts. -/
def path? (map : ColumnMap) (header : String) : Option String :=
  (map.columns.find? fun column => column.header == header).map Column.path

def identifierColumns (map : ColumnMap) : List Column :=
  map.columns.filter fun column => column.path == identifierPath

def identifierHeader? (map : ColumnMap) : Option String :=
  (map.columns.find? fun column => column.path == identifierPath).map Column.header

/-- The paths by header; of equal headers the last counts, in the first one's place. -/
def toEntries (map : ColumnMap) : List (String × String) :=
  Entries.merge [] (map.columns.map fun column => (column.header, column.path))

structure Sound (map : ColumnMap) : Prop where
  version_given : Text.trim map.version ≠ ""
  columns_given : map.columns ≠ []
  headers_distinct : map.headers.Nodup
  one_identifier : map.identifierColumns.length = 1

/-- The first problem of a map, if it has any. -/
def problem? (map : ColumnMap) : Option ConfigProblem :=
  if Text.trim map.version = "" then some .versionMissing
  else if map.columns = [] then some (.columnsMissing map.version)
  else if ¬ map.headers.Nodup then some (.headersRepeated map.version)
  else if map.identifierColumns.length ≠ 1 then
    some (.identifierCount map.version map.identifierColumns.length)
  else none

theorem problem?_eq_none_iff (map : ColumnMap) : map.problem? = none ↔ map.Sound := by
  constructor
  · intro clear
    have version : Text.trim map.version ≠ "" := fun blank => by simp [problem?, blank] at clear
    have columns : map.columns ≠ [] := fun empty => by simp [problem?, version, empty] at clear
    have headers : map.headers.Nodup := Decidable.not_not.mp fun repeated => by
      simp [problem?, version, columns, repeated] at clear
    have identifier : map.identifierColumns.length = 1 := Decidable.not_not.mp fun other => by
      simp [problem?, version, columns, headers, other] at clear
    exact ⟨version, columns, headers, identifier⟩
  · intro sound
    simp [problem?, sound.version_given, sound.columns_given, sound.headers_distinct,
      sound.one_identifier]

end ColumnMap

end LoanDispatch
