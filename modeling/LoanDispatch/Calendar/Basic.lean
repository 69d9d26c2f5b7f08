/-!
Dates, clock times and offsets from universal time, with their ranges as part of the types.  Day
numbers count from the first day of year one and give the weekday.
-/

set_option autoImplicit false

namespace LoanDispatch.Calendar

def isLeap (year : Nat) : Bool :=
  year % 4 == 0 && (year % 100 != 0 || year % 400 == 0)

/-- The days of a month; months outside the year have none. -/
def daysInMonth (year month : Nat) : Nat :=
  if month = 2 then (if isLeap year then 29 else 28)
  else if month ∈ [4, 6, 9, 11] then 30
  else if 1 ≤ month ∧ month ≤ 12 then 31
  else 0

structure Date where
  year : Nat
  month : Nat
  day : Nat
  year_pos : 1 ≤ year
  year_le : year ≤ 9999
  day_pos : 1 ≤ day
  day_le : day ≤ daysInMonth year month
  deriving DecidableEq

structure Clock where
  hour : Nat
  minute : Nat
  second : Nat
  micro : Nat
  hour_lt : hour < 24
  minute_lt : minute < 60
  second_lt : second < 60
  micro_lt : micro < 1000000
  deriving DecidableEq

def dayMicros : Nat := 86400000000

/-- An offset from universal time of less than a day. -/
structure Offset where
  micros : Int
  lower : -(dayMicros : Int) < micros
  upper : micros < (dayMicros : Int)
  deriving DecidableEq

/-- A date and time, with an offset or without one. -/
structure DateTime where
  date : Date
  clock : Clock
  offset : Option Offset
  deriving DecidableEq

namespace Date

def ofParts? (year month day : Nat) : Option Date :=
  if h : 1 ≤ year ∧ year ≤ 9999 ∧ 1 ≤ day ∧ day ≤ daysInMonth year month then
    some ⟨year, month, day, h.1, h.2.1, h.2.2.1, h.2.2.2⟩
  else none

end Date

namespace Clock

def ofParts? (hour minute second micro : Nat) : Option Clock :=
  if h : hour < 24 ∧ minute < 60 ∧ second < 60 ∧ micro < 1000000 then
    some ⟨hour, minute, second, micro, h.1, h.2.1, h.2.2.1, h.2.2.2⟩
  else none

def midnight : Clock := ⟨0, 0, 0, 0, by decide, by decide, by decide, by decide⟩

end Clock

namespace Offset

def utc : Offset := ⟨0, by decide, by decide⟩

def ofMicros? (micros : Int) : Option Offset :=
  if h : -(dayMicros : Int) < micros ∧ micros < (dayMicros : Int) then some ⟨micros, h.1, h.2⟩
  else none

end Offset

def daysBeforeYear (year : Nat) : Nat :=
  let past := year - 1
  past * 365 + past / 4 - past / 100 + past / 400

/-- The days from the first of January to the first of the month. -/
def daysBeforeMonth (year month : Nat) : Nat :=
  (List.range (month - 1)).foldl (fun days index => days + daysInMonth year (index + 1)) 0

/-- The number of a day, the first day of year one being 1. -/
def dayNumber (year month day : Nat) : Nat :=
  daysBeforeYear year + daysBeforeMonth year month + day

def weekday (number : Nat) : Nat := (number + 6) % 7

/-- The month and day of a day of the year; `fuel` bounds the months. -/
def monthAndDay (year : Nat) : Nat → Nat → Nat → Nat × Nat
  | 0, month, day => (month, day)
  | fuel + 1, month, day =>
    if day ≤ daysInMonth year month then (month, day)
    else monthAndDay year fuel (month + 1) (day - daysInMonth year month)

/-- The year that a day number falls in, found by correcting an estimate from below. -/
def yearOf (number : Nat) : Nat :=
  let estimate := (number - 1) / 366 + 1
  let ahead := (List.range 30).takeWhile fun step => daysBeforeYear (estimate + step + 1) < number
  estimate + ahead.length

/-- The date of a day number in the supported years. -/
def Date.ofDayNumber? (number : Nat) : Option Date :=
  let year := yearOf number
  let (month, day) := monthAndDay year 12 1 (number - daysBeforeYear year)
  Date.ofParts? year month day

/-- The day number of the Monday of a year's first week, the week that holds the first Thursday. -/
def firstMonday (year : Nat) : Nat :=
  let first := dayNumber year 1 1
  let day := weekday first
  if 3 < day then first + 7 - day else first - day

/-- The weeks that a year has: 53 when it begins on a Thursday, or on a Wednesday in a leap year. -/
def weeksInYear (year : Nat) : Nat :=
  let day := weekday (dayNumber year 1 1)
  if day = 3 ∨ (day = 2 ∧ isLeap year) then 53 else 52

/-- The date of a numbered week and day of week. -/
def Date.ofWeek? (year week day : Nat) : Option Date :=
  if 1 ≤ year ∧ year ≤ 9999 ∧ 1 ≤ week ∧ week ≤ weeksInYear year ∧ 1 ≤ day ∧ day ≤ 7 then
    Date.ofDayNumber? (firstMonday year + (week - 1) * 7 + (day - 1))
  else none

end LoanDispatch.Calendar
