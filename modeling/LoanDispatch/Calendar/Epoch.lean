import LoanDispatch.Calendar.Basic
import LoanDispatch.Number.Binary

/-!
Moments counted in seconds from the beginning of 1970, in universal time.  A count with a fraction
is rounded to microseconds.
-/

set_option autoImplicit false

namespace LoanDispatch.Calendar

open Number

structure EpochTime where
  seconds : Int
  micro : Nat
  deriving DecidableEq

namespace EpochTime

def ofSeconds (seconds : Int) : EpochTime := ⟨seconds, 0⟩

/-- The seconds and microseconds of a count; the microseconds are the fraction times a million,
rounded to a floating point number and then to a whole one. -/
def ofBinary64? (count : Binary64) : Option EpochTime :=
  match count with
  | .finite negative size =>
    let fraction := size.numerator % size.denominator
    let micros := match Magnitude.ofQuotient? (fraction * 1000000) size.denominator with
      | some product => roundHalfEven product.numerator product.denominator
      | none => 0
    let total : Int := size.floor * 1000000 + micros
    let signed := if negative then -total else total
    some ⟨signed.fdiv 1000000, (signed.fmod 1000000).toNat⟩
  | _ => none

def floorSeconds? (count : Binary64) : Option Int :=
  match count with
  | .finite negative size =>
    let signed : Int := if negative then -(size.numerator : Int) else size.numerator
    some (signed.fdiv size.denominator)
  | _ => none

def secondOfDay (seconds : Int) : Nat := (seconds.fmod 86400).toNat

def firstDay : Nat := dayNumber 1970 1 1

/-- The moment in universal time; none outside the years of the calendar. -/
def moment? (time : EpochTime) : Option DateTime := do
  let date ← Date.ofDayNumber? ((firstDay : Int) + time.seconds.fdiv 86400).toNat
  let second := secondOfDay time.seconds
  let clock ← Clock.ofParts? (second / 3600) (second / 60 % 60) (second % 60) time.micro
  return ⟨date, clock, some .utc⟩

end EpochTime

end LoanDispatch.Calendar
