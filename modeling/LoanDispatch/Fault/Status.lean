import LoanDispatch.Fault.Basic
import LoanDispatch.Number.Reading

/-!
Which faults are worth another attempt.  A fault's status is looked for in a fixed order of places;
the statuses 429 and 500 to 599 are transient and all others are final.
-/

set_option autoImplicit false

namespace LoanDispatch

def isRetryableStatus (status : Int) : Bool := status == 429 || (500 ≤ status && status ≤ 599)

/-- The transient statuses among values; only numbers and null have an answer. -/
def isRetryableCode : Value → Except Misfit Bool
  | .null => .ok false
  | .bool flag => .ok (isRetryableStatus (if flag then 1 else 0))
  | .int number => .ok (isRetryableStatus number)
  | .float number =>
    .ok (number.equalsInt 429 || (number.atLeastInt 500 && number.atMostInt 599))
  | value => .error (.notOrdered "<=" "int" value.kindName)

/-- A status out of a value: an integer, or a text of digits. -/
def asStatus? : Value → Except Misfit (Option Int)
  | .int number => .ok (some number)
  | .text words =>
    if Text.allNumerals words.toList then (Number.readInteger words).map some else .ok none
  | _ => .ok none

namespace Fault

def inner (name : String) (object : Value) : Value := Value.getD name (object.entries?.getD [])

/-- The places where a fault may carry a status, in order. -/
def statusCandidates (fault : Fault) : List Value :=
  let reply := fault.property "resp"
  let response := fault.property "response"
  [fault.property "status_code"]
    ++ (if reply.isNull then [] else [inner "status" reply])
    ++ (if response.isNull then [] else [inner "status_code" response, inner "status" response])
    ++ [fault.property "code"]

def firstStatus? : List Value → Except Misfit (Option Int)
  | [] => .ok none
  | value :: rest => do
    match ← asStatus? value with
    | some status => return some status
    | none => firstStatus? rest

def status? (fault : Fault) : Except Misfit (Option Int) := firstStatus? fault.statusCandidates

def isRetryable (fault : Fault) : Except Misfit Bool :=
  fault.status?.map fun status => (status.map isRetryableStatus).getD false

end Fault

end LoanDispatch
