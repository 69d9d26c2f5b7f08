import LoanDispatch.Value.Basic

/-!
What a delivery asks of the outside: requests to a spreadsheet service and to a partner.
-/

set_option autoImplicit false

namespace LoanDispatch

inductive SheetRequest where
  | titles (spreadsheetId : String)
  | values (spreadsheetId range : String)
  | append (spreadsheetId range : String) (row : List Value)

namespace SheetRequest

def name : SheetRequest → String
  | .titles _ => "titles"
  | .values .. => "values"
  | .append .. => "append"

end SheetRequest

structure PartnerRequest where
  url : String
  body : String
  idempotencyKey : String
  attempt : String
  timeout : Value

/-- A reply of a partner, and the room for brackets that is left when its body is read. -/
structure PartnerReply where
  status : Int
  body : List UInt8
  room : Nat

end LoanDispatch
