import LoanDispatch.Number.Binary
import LoanDispatch.Text.Split

/-!
Amounts with a fixed number of decimal places and a comma between groups of three whole digits.  The
exact value is rounded, a half going to the even neighbour.
-/

set_option autoImplicit false

namespace LoanDispatch.Number

/-- Puts a comma before every third digit, counted from the end; the digits come last first. -/
def groupReversed : List Char → List Char
  | a :: b :: c :: d :: rest => a :: b :: c :: ',' :: groupReversed (d :: rest)
  | digits => digits

def groupThousands (digits : List Char) : List Char :=
  (groupReversed digits.reverse).reverse

structure AmountFormat where
  places : Nat
  grouped : Bool

def amountFormat : AmountFormat := ⟨2, true⟩

/-- The whole digits and the fraction digits of `num / den`, rounded to a count of places. -/
def fixedDigits (places num den : Nat) : List Char × List Char :=
  let units := roundHalfEven (num * tenTo places) den
  ((toString (units / tenTo places)).toList,
    if places = 0 then [] else (Text.padZeros places (units % tenTo places)).toList)

/-- The digits of `num / den` with a point before the fraction. -/
def AmountFormat.digits (format : AmountFormat) (num den : Nat) : List Char :=
  let (whole, fraction) := fixedDigits format.places num den
  (if format.grouped then groupThousands whole else whole) ++ '.' :: fraction

namespace Binary64

def amountText (format : AmountFormat) (x : Binary64) : String :=
  match x with
  | .nan => "nan"
  | .infinite negative => if negative then "-inf" else "inf"
  | .finite negative size =>
    (if negative then "-" else "")
      ++ String.ofList (format.digits size.numerator size.denominator)

end Binary64

end LoanDispatch.Number
