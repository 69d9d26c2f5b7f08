import LoanDispatch.Number.Reading
import LoanDispatch.Value.Display

/-!
Printing values.  A value is printed as its text, unless it holds an integer with more digits than
are printed.
-/

set_option autoImplicit false

namespace LoanDispatch.Value

/-- The least size of an integer with more digits than are printed. -/
def printLimit : Nat := Number.tenTo Number.maxIntegerDigits

/-- The integer has more digits than are printed. -/
def isLong (number : Int) : Bool := Number.maxIntegerDigits < (Nat.toDigits 10 number.natAbs).length

mutual

/-- The value is, or has inside it, an integer with more digits than are printed. -/
def holdsLong : Value → Bool
  | .int number => isLong number
  | .list items | .tuple items => someLong items
  | .map entries | .record _ entries => someEntryLong entries
  | _ => false

def someLong : List Value → Bool
  | [] => false
  | item :: rest => item.holdsLong || someLong rest

def someEntryLong : List (String × Value) → Bool
  | [] => false
  | (_, value) :: rest => value.holdsLong || someEntryLong rest

end

def printed (value : Value) : Except Misfit String :=
  if value.holdsLong then .error (.unprintable Number.maxIntegerDigits) else .ok value.display

/-- The literal of the value, which shows the same integers as its text. -/
def printedLiteral (value : Value) : Except Misfit String :=
  if value.holdsLong then .error (.unprintable Number.maxIntegerDigits) else .ok value.literal

theorem isLong_iff {number : Int} : isLong number = true ↔ printLimit ≤ number.natAbs := by
  rw [isLong, decide_eq_true_iff, ← Nat.not_le,
    Nat.length_toDigits_le_iff (by decide) (by decide), Nat.not_lt, printLimit, Number.tenTo,
    Nat.pow_eq]

theorem printed_text (words : String) : (text words).printed = .ok words := rfl

theorem printed_int (number : Int) :
    (int number).printed
      = if isLong number then .error (.unprintable Number.maxIntegerDigits)
        else .ok (toString number) := by
  rw [printed, holdsLong]
  rfl

end LoanDispatch.Value
