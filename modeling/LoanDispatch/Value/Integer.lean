import LoanDispatch.Fault.Misfit
import LoanDispatch.Number.Reading
import LoanDispatch.Value.Basic

/-!
Integers out of values.  A foreign object gives none, even where its text writes one.
-/

set_option autoImplicit false

namespace LoanDispatch.Value

/-- The integer of a number or of a text that writes one; fractions are cut off. -/
def toInteger : Value → Except Misfit Int
  | .int number => .ok number
  | .bool flag => .ok (if flag then 1 else 0)
  | .float number =>
    match number.truncate? with
    | some integer => .ok integer
    | none => .error (.noIntegerPart (number != .nan))
  | .text words => Number.readInteger words
  | value => .error (.notIntegral value.kindName)

end LoanDispatch.Value
