import LoanDispatch.Number.Binary

/-!
The shortest decimal text of a number.  Of all decimals that read back as the number, those with the
fewest digits are kept, and of these the nearest one is written.  The layout is decided by the place
of the point: positional from four zeros after the point up to sixteen whole digits, with an
exponent otherwise.
-/

set_option autoImplicit false

namespace LoanDispatch.Number

structure Decimal where
  coefficient : Nat
  exponent : Int
  deriving DecidableEq

namespace Decimal

/-- The decimal is nearer to `num / den` than the next decimal on the same grid; a half goes to the
even coefficient. -/
def nearerThanNext (d : Decimal) (num den : Nat) : Bool :=
  let unit := tenTo d.exponent.toNat * den
  let target := 2 * num * tenTo (-d.exponent).toNat
  let middle := (2 * d.coefficient + 1) * unit
  target < middle || (target == middle && d.coefficient % 2 == 0)

/-- Removes the zeros at the end of the coefficient; `fuel` bounds their number. -/
def stripZeros (d : Decimal) : Nat → Decimal
  | 0 => d
  | fuel + 1 =>
    if d.coefficient ≠ 0 ∧ d.coefficient % 10 = 0 then
      stripZeros ⟨d.coefficient / 10, d.exponent + 1⟩ fuel
    else d

end Decimal

/-- The power of ten at or below `num / den`, found by correcting an estimate; `fuel` bounds the
corrections. -/
def decimalExponent (num den : Nat) : Nat → Int → Int
  | 0, estimate => estimate
  | fuel + 1, estimate =>
    let scaledDen := den * tenTo estimate.toNat
    let scaledNum := num * tenTo (-estimate).toNat
    if scaledNum < scaledDen then decimalExponent num den fuel (estimate - 1)
    else if 10 * scaledDen ≤ scaledNum then decimalExponent num den fuel (estimate + 1)
    else estimate

namespace Magnitude

def readsBack (size : Magnitude) (d : Decimal) : Bool :=
  Binary64.ofDecimal false d.coefficient d.exponent == .finite false size

/-- The nearer of the two neighbours on a decimal grid that reads back as the magnitude. -/
def onGrid? (size : Magnitude) (exponent : Int) : Option Decimal :=
  let below : Decimal :=
    ⟨size.numerator * tenTo (-exponent).toNat / (size.denominator * tenTo exponent.toNat), exponent⟩
  let above : Decimal := ⟨below.coefficient + 1, exponent⟩
  if size.readsBack below then
    if size.readsBack above && !below.nearerThanNext size.numerator size.denominator then some above
    else some below
  else if size.readsBack above then some above
  else none

/-- Tries grids with one more digit each until a neighbour reads back. -/
def searchGrids (size : Magnitude) : Nat → Int → Option Decimal
  | 0, _ => none
  | fuel + 1, exponent =>
    match size.onGrid? exponent with
    | some d => some d
    | none => size.searchGrids fuel (exponent - 1)

def exactDecimal (size : Magnitude) : Decimal :=
  ⟨size.mantissa * twoTo size.exponent.toNat * fiveTo (-size.exponent).toNat, min size.exponent 0⟩

/-- The shortest decimal that reads back, without zeros at its end. -/
def shortest (size : Magnitude) : Decimal :=
  if size.mantissa = 0 then ⟨0, 0⟩
  else
    let estimate := ((size.numerator.log2 : Int) - (size.denominator.log2 : Int)) * 3 / 10
    let top := decimalExponent size.numerator size.denominator 40 estimate
    ((size.searchGrids 17 top).getD size.exactDecimal).stripZeros 400

end Magnitude

structure FloatLayout where
  /-- The least power of ten of the leading digit that is written without an exponent. -/
  leastPositional : Int
  /-- The first power of ten that is written with an exponent. -/
  firstScientific : Int
  exponentWidth : Nat
  nanText : String
  infinityText : String

/-- Numbers have a point unless they have an exponent, and an exponent has a sign and two digits. -/
def plainLayout : FloatLayout := ⟨-4, 16, 2, "nan", "inf"⟩

/-- The digits of a decimal with its point placed after `point` of them. -/
def positionalDigits (digits : List Char) (point : Int) : List Char :=
  if point ≤ 0 then '0' :: '.' :: List.replicate (-point).toNat '0' ++ digits
  else if (digits.length : Int) ≤ point then
    digits ++ List.replicate (point.toNat - digits.length) '0' ++ ['.', '0']
  else digits.take point.toNat ++ '.' :: digits.drop point.toNat

/-- One digit before the point, the others after it, and a signed exponent. -/
def scientificDigits (layout : FloatLayout) (digits : List Char) (power : Int) : List Char :=
  let fraction := if digits.length ≤ 1 then [] else '.' :: digits.drop 1
  let exponentDigits := (toString power.natAbs).toList
  let padding := List.replicate (layout.exponentWidth - exponentDigits.length) '0'
  digits.take 1 ++ fraction ++ 'e' :: (if power < 0 then '-' else '+') :: padding ++ exponentDigits

def Decimal.layOut (layout : FloatLayout) (d : Decimal) : List Char :=
  let digits := (toString d.coefficient).toList
  let point : Int := digits.length + d.exponent
  if d.coefficient = 0 then ['0', '.', '0']
  else if layout.leastPositional ≤ point - 1 ∧ point - 1 < layout.firstScientific then
    positionalDigits digits point
  else scientificDigits layout digits (point - 1)

namespace Binary64

def shortestWith (layout : FloatLayout) (x : Binary64) : String :=
  match x with
  | .nan => layout.nanText
  | .infinite negative => (if negative then "-" else "") ++ layout.infinityText
  | .finite negative size =>
    (if negative then "-" else "") ++ String.ofList (size.shortest.layOut layout)

def shortestText (x : Binary64) : String := x.shortestWith plainLayout

end Binary64

end LoanDispatch.Number
