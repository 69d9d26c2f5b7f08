import LoanDispatch.Calendar.Basic
import LoanDispatch.Text.Split

/-!
The ISO text of dates and times.  Microseconds and the seconds of an offset are written only when
they are not zero.
-/

set_option autoImplicit false

namespace LoanDispatch.Calendar

open Text

def Date.isoText (date : Date) : String :=
  padZeros 4 date.year ++ "-" ++ padZeros 2 date.month ++ "-" ++ padZeros 2 date.day

/-- Microseconds after a point, or nothing when there are none. -/
def microText (micro : Nat) : String :=
  if micro = 0 then "" else "." ++ padZeros 6 micro

def Clock.secondsText (clock : Clock) : String :=
  padZeros 2 clock.hour ++ ":" ++ padZeros 2 clock.minute ++ ":" ++ padZeros 2 clock.second

def Clock.isoText (clock : Clock) : String :=
  clock.secondsText ++ microText clock.micro

def Offset.isoText (offset : Offset) : String :=
  let size := offset.micros.natAbs
  let seconds := size / 1000000
  let micro := size % 1000000
  let tail :=
    if seconds % 60 = 0 ∧ micro = 0 then "" else ":" ++ padZeros 2 (seconds % 60) ++ microText micro
  (if offset.micros < 0 then "-" else "+") ++ padZeros 2 (seconds / 3600) ++ ":"
    ++ padZeros 2 (seconds / 60 % 60) ++ tail

/-- The ISO text with a chosen separator between date and time. -/
def DateTime.textWith (separator : String) (moment : DateTime) : String :=
  moment.date.isoText ++ separator ++ moment.clock.isoText
    ++ (moment.offset.map Offset.isoText).getD ""

def DateTime.isoText (moment : DateTime) : String := moment.textWith "T"

end LoanDispatch.Calendar
