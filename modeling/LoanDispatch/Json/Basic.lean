import LoanDispatch.Entries
import LoanDispatch.Number.Binary

/-!
JSON documents.  Objects keep the order of their keys; numbers are integers or 64 bit floating point
numbers, which include the three that are not finite.
-/

set_option autoImplicit false

namespace LoanDispatch

inductive Json where
  | null
  | bool (flag : Bool)
  | int (number : Int)
  | float (number : Number.Binary64)
  | text (text : String)
  | array (items : List Json)
  | object (entries : List (String × Json))

namespace Json

instance : Inhabited Json := ⟨.null⟩

def get? (key : String) : Json → Option Json
  | .object entries => Entries.lookup key entries
  | _ => none

end Json

end LoanDispatch
