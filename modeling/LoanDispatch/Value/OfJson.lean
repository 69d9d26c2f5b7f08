import LoanDispatch.Json.Basic
import LoanDispatch.Value.Basic

/-!
The value of a JSON document.
-/

set_option autoImplicit false

namespace LoanDispatch.Value

mutual

def ofJson : Json → Value
  | .null => .null
  | .bool flag => .bool flag
  | .int number => .int number
  | .float number => .float number
  | .text words => .text words
  | .array items => .list (ofJsonItems items)
  | .object entries => .map (ofJsonEntries entries)

def ofJsonItems : List Json → List Value
  | [] => []
  | item :: rest => ofJson item :: ofJsonItems rest

def ofJsonEntries : List (String × Json) → List (String × Value)
  | [] => []
  | (key, document) :: rest => (key, ofJson document) :: ofJsonEntries rest

end

end LoanDispatch.Value
