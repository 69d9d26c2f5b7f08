import LoanDispatch.Text.DigitTable
import LoanDispatch.Text.Range

/-!
Digit characters.  A decimal digit belongs to a row of ten and has a value; a numeral such as a
superscript counts as a digit but has no value here.
-/

set_option autoImplicit false

namespace LoanDispatch.Text

def decimalValue? (c : Char) : Option Nat :=
  (decimalRanges.find? fun range => range.1 ≤ c.toNat && c.toNat ≤ range.2).map
    fun range => (c.toNat - range.1) % 10

def isDecimal (c : Char) : Bool := (decimalValue? c).isSome

/-- A decimal digit, or a numeral outside the decimal rows. -/
def isNumeral (c : Char) : Bool := isDecimal c || memRanges numeralRanges c

/-- The text is non-empty and every character of it counts as a digit. -/
def allNumerals (cs : List Char) : Bool := !cs.isEmpty && cs.all isNumeral

def asciiDigit? (c : Char) : Option Nat :=
  if '0' ≤ c ∧ c ≤ '9' then some (c.toNat - '0'.toNat) else none

/-- The character that writes a digit below sixteen, letters in lower case. -/
def digitChar (n : Nat) : Char :=
  if n < 10 then Char.ofNat (n + 48) else Char.ofNat (n + 87)

end LoanDispatch.Text
