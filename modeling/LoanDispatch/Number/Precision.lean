import LoanDispatch.Number.Fixed
import LoanDispatch.Number.Shortest

/-!
Numbers written to a chosen precision: with fixed places, with an exponent, or in the general form
that takes whichever of the two suits the size of the number.  The exact value is rounded once, a
half going to the even neighbour.
-/

set_option autoImplicit false

namespace LoanDispatch.Number

inductive FloatStyle where
  | fixed
  | exponent
  | general
  deriving DecidableEq

structure FloatFormat where
  style : FloatStyle
  /-- The places after the point, or in the general form the count of significant digits. -/
  precision : Nat
  /-- A point is written also when no digit follows it, and the general form keeps its last zeros.
  -/
  keepPoint : Bool
  raised : Bool

namespace Magnitude

/-- The magnitude rounded to a count of significant digits: the digits, and the power of ten of the
first one. -/
def significant (size : Magnitude) (count : Nat) : List Char × Int :=
  if size.mantissa = 0 then (List.replicate count '0', 0)
  else
    let estimate := ((size.numerator.log2 : Int) - (size.denominator.log2 : Int)) * 3 / 10
    let top := decimalExponent size.numerator size.denominator 40 estimate
    let last := top - ((count : Int) - 1)
    let coefficient :=
      roundHalfEven (size.numerator * tenTo (-last).toNat) (size.denominator * tenTo last.toNat)
    if coefficient = tenTo count then ((toString (tenTo (count - 1))).toList, top + 1)
    else ((toString coefficient).toList, top)

end Magnitude

namespace FloatFormat

/-- Whole and fraction digits with a point between them where one is due. -/
def joinDigits (format : FloatFormat) (whole fraction : List Char) : List Char :=
  if fraction.isEmpty && !format.keepPoint then whole else whole ++ '.' :: fraction

/-- An exponent with its sign and at least two digits. -/
def exponentText (power : Int) : List Char :=
  'e' :: (if power < 0 then '-' else '+') :: (Text.padZeros 2 power.natAbs).toList

/-- The fraction of the general form, which ends in no zero unless zeros are kept. -/
def trimZeros (format : FloatFormat) (fraction : List Char) : List Char :=
  if format.keepPoint then fraction else (fraction.reverse.dropWhile (· = '0')).reverse

def plainDigits (format : FloatFormat) (size : Magnitude) : List Char :=
  let (whole, fraction) := fixedDigits format.precision size.numerator size.denominator
  format.joinDigits whole fraction

def exponentDigits (format : FloatFormat) (size : Magnitude) : List Char :=
  let (digits, power) := size.significant (format.precision + 1)
  format.joinDigits (digits.take 1) (digits.drop 1) ++ exponentText power

/-- The general form has an exponent below `10 ^ -4` and from the power of ten that the precision no
longer covers. -/
def generalDigits (format : FloatFormat) (size : Magnitude) : List Char :=
  let count := max format.precision 1
  let (digits, power) := size.significant count
  if power < -4 ∨ (count : Int) ≤ power then
    format.joinDigits (digits.take 1) (format.trimZeros (digits.drop 1)) ++ exponentText power
  else if power < 0 then
    format.joinDigits ['0'] (format.trimZeros (List.replicate (-power - 1).toNat '0' ++ digits))
  else
    let whole := power.toNat + 1
    format.joinDigits (digits.take whole) (format.trimZeros (digits.drop whole))

def digits (format : FloatFormat) (size : Magnitude) : List Char :=
  match format.style with
  | .fixed => format.plainDigits size
  | .exponent => format.exponentDigits size
  | .general => format.generalDigits size

/-- A number in the format, with a minus when it is negative. -/
def write (format : FloatFormat) (x : Binary64) : List Char :=
  let (negative, words) :=
    match x with
    | .nan => (false, ['n', 'a', 'n'])
    | .infinite negative => (negative, ['i', 'n', 'f'])
    | .finite negative size => (negative, format.digits size)
  let words := if format.raised then words.map Char.toUpper else words
  if negative then '-' :: words else words

end FloatFormat

end LoanDispatch.Number
