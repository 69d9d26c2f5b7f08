import LoanDispatch.ColumnMap.Builtin
import LoanDispatch.Fault.Basic

/-!
The registry of column maps.  A map is registered under its own version text and takes the place of
an earlier map with that version; a lookup trims the version that it is given.
-/

set_option autoImplicit false

namespace LoanDispatch

structure Registry where
  maps : List ColumnMap

namespace Registry

/-- Puts a map in the place of the map with its version, or at the end when there is none. -/
def put (registry : Registry) (map : ColumnMap) : Registry :=
  if registry.maps.any fun known => known.version == map.version then
    ⟨registry.maps.map fun known => if known.version = map.version then map else known⟩
  else ⟨registry.maps ++ [map]⟩

def at? (registry : Registry) (version : String) : Option ColumnMap :=
  registry.maps.find? fun map => map.version == version

def register (registry : Registry) (map : ColumnMap) : Except ConfigProblem Registry :=
  match map.problem? with
  | none => .ok (registry.put map)
  | some problem => .error problem

/-- The map that a lender's version text asks for; a blank text asks for none. -/
def get? (registry : Registry) (version : String) : Option ColumnMap :=
  let key := Text.trim version
  if key = "" then none else registry.at? key

/-- The map that a version asks for; one that is not given counts as blank. -/
def find (registry : Registry) (version : Value) : Except Fault ColumnMap :=
  let wanted : Except Fault String :=
    if !version.isGiven then .ok ""
    else
      match version.text? with
      | some words => .ok words
      | none => .error (.misfit (.noAttribute version.kindName "strip"))
  wanted.bind fun words =>
    match registry.get? words with
    | some map => .ok map
    | none => .error (.config (.versionUnknown version))

def versions (registry : Registry) : List String :=
  (registry.maps.map ColumnMap.version).mergeSort fun left right => decide (left ≤ right)

def builtin : Registry := ⟨[ColumnMap.merchant, ColumnMap.merchantWithDocument]⟩

end Registry

end LoanDispatch
