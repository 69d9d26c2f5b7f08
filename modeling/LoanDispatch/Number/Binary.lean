import LoanDispatch.Number.Power
import LoanDispatch.Number.Rounding

/-!
Binary floating point numbers of 64 bits as exact values.  A finite number is a sign and a magnitude
`mantissa · 2 ^ exponent`; the magnitude is canonical, so equal numbers are equal terms, the two
zeros apart.  `ofQuotient` rounds an exact quotient to the nearest magnitude.
-/

set_option autoImplicit false

namespace LoanDispatch.Number

/-- The mantissa has 53 bits at most, and fewer than 53 only at the least exponent. -/
abbrev Canonical (mantissa : Nat) (exponent : Int) : Prop :=
  mantissa < twoTo 53 ∧ -1074 ≤ exponent ∧ exponent ≤ 971 ∧ (twoTo 52 ≤ mantissa ∨ exponent = -1074)

structure Magnitude where
  mantissa : Nat
  exponent : Int
  canonical : Canonical mantissa exponent
  deriving DecidableEq

inductive Binary64 where
  | nan
  | infinite (negative : Bool)
  | finite (negative : Bool) (size : Magnitude)
  deriving DecidableEq

namespace Magnitude

def zero : Magnitude := ⟨0, -1074, by decide⟩

instance : Inhabited Magnitude := ⟨zero⟩

def ofParts? (mantissa : Nat) (exponent : Int) : Option Magnitude :=
  if canonical : Canonical mantissa exponent then some ⟨mantissa, exponent, canonical⟩ else none

def numerator (size : Magnitude) : Nat := size.mantissa * twoTo size.exponent.toNat

def denominator (size : Magnitude) : Nat := twoTo (-size.exponent).toNat

theorem denominator_pos (size : Magnitude) : 0 < size.denominator :=
  twoTo_pos _

def floor (size : Magnitude) : Nat := size.numerator / size.denominator

/-- `num / den` in units of `2 ^ exponent`, rounded to a whole number. -/
def scaled (num den : Nat) (exponent : Int) : Nat :=
  roundHalfEven (num * twoTo (-exponent).toNat) (den * twoTo exponent.toNat)

/-- The exponent at which `num / den` has a mantissa of 53 bits, or the least exponent. -/
def exponentOf (num den : Nat) : Int :=
  let estimate : Int := (num.log2 : Int) - (den.log2 : Int) - 52
  let fits := twoTo 52 * (den * twoTo estimate.toNat) ≤ num * twoTo (-estimate).toNat
  max (if fits then estimate else estimate - 1) (-1074)

/-- The magnitude nearest to `num / den`; none when the quotient is too large. -/
def ofQuotient? (num den : Nat) : Option Magnitude :=
  if num = 0 then some zero
  else
    let exponent := exponentOf num den
    let mantissa := scaled num den exponent
    if mantissa = twoTo 53 then ofParts? (twoTo 52) (exponent + 1) else ofParts? mantissa exponent

end Magnitude

namespace Binary64

/-- The number nearest to `± num / den`; infinite when the quotient is too large. -/
def ofQuotient (negative : Bool) (num den : Nat) : Binary64 :=
  match Magnitude.ofQuotient? num den with
  | some size => .finite negative size
  | none => .infinite negative

/-- The number nearest to an integer; none when the integer is too large. -/
def ofInt? (n : Int) : Option Binary64 :=
  (Magnitude.ofQuotient? n.natAbs 1).map (.finite (decide (n < 0)))

/-- The number nearest to `± coefficient · 10 ^ exponent`.  Exponents that can only give an infinity
or a zero are decided by the count of digits. -/
def ofDecimal (negative : Bool) (coefficient : Nat) (exponent : Int) : Binary64 :=
  let digits : Int := (coefficient.log2 : Int)
  if coefficient = 0 then .finite negative .zero
  else if 310 < exponent then .infinite negative
  else if digits + exponent * 3 < -1100 then .finite negative .zero
  else ofQuotient negative (coefficient * tenTo exponent.toNat) (tenTo (-exponent).toNat)

def isFinite : Binary64 → Bool
  | .finite .. => true
  | _ => false

def isZero : Binary64 → Bool
  | .finite _ size => size.mantissa = 0
  | _ => false

/-- The integer next towards zero; none for a number that is not finite. -/
def truncate? : Binary64 → Option Int
  | .finite negative size => some (if negative then -(size.floor : Int) else size.floor)
  | _ => none

def equalsInt (x : Binary64) (n : Int) : Bool :=
  match x with
  | .finite negative size =>
    (if negative then -(size.numerator : Int) else size.numerator) == n * size.denominator
  | _ => false

/-- The number is at least the integer; a number that is not a number is not. -/
def atLeastInt (x : Binary64) (n : Int) : Bool :=
  match x with
  | .nan => false
  | .infinite negative => !negative
  | .finite negative size =>
    n * size.denominator ≤ (if negative then -(size.numerator : Int) else size.numerator)

/-- The number is at most the integer; a number that is not a number is not. -/
def atMostInt (x : Binary64) (n : Int) : Bool :=
  match x with
  | .nan => false
  | .infinite negative => negative
  | .finite negative size =>
    (if negative then -(size.numerator : Int) else size.numerator) ≤ n * size.denominator

end Binary64

end LoanDispatch.Number
