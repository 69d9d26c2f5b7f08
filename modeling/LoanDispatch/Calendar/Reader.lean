import LoanDispatch.Calendar.Basic
import LoanDispatch.Number.Reading

/-!
Reading ISO date and time texts.  A date has the extended or the basic form, by month and day or by
week; one character of any kind separates it from the time; a time has the extended or the basic
form, a fraction and an offset.  Digits of a fraction after the sixth are dropped.

Two leniencies of the format are kept: one unread character may stand before an offset, and so may
anything after six digits of a fraction.  A NUL counts as the end of the time.
-/

set_option autoImplicit false

namespace LoanDispatch.Calendar

open Number Text

/-- Exactly `count` ASCII digits as a number, and the rest. -/
def exactDigits? (count : Nat) (cs : List Char) : Option (Nat × List Char) :=
  let digits := (cs.take count).filterMap asciiDigit?
  if digits.length = count then some (ofDigits 10 digits, cs.drop count) else none

/-- The count of characters in front of the separator between date and time.  The fifth character
tells the extended from the basic form and a following letter marks a week; where a week date may
end in two ways, the digits that follow decide. -/
def dateLength (cs : List Char) : Nat :=
  let isDigitAt (index : Nat) : Bool := (cs[index]?.bind asciiDigit?).isSome
  if cs.length = 7 then 7
  else if cs[4]? = some '-' then
    if cs[5]? = some 'W' then
      if cs[8]? = some '-' ∧ ¬ isDigitAt 10 then 10 else 8
    else 10
  else if cs[4]? = some 'W' then
    let digits := ((cs.drop 7).takeWhile fun c => (asciiDigit? c).isSome).length
    if digits < 2 then 7 + digits else if digits % 2 = 0 then 8 else 7
  else 8

/-- The date form by month and day, or by week with the day of the week left out for a Monday. -/
def readDateFields? (cs : List Char) : Option Date := do
  let (year, afterYear) ← exactDigits? 4 cs
  let extended := afterYear.head? = some '-'
  let skipDash (rest : List Char) : Option (List Char) :=
    if extended then (if rest.head? = some '-' then some (rest.drop 1) else none) else some rest
  let body ← skipDash afterYear
  if body.head? = some 'W' then
    let (week, afterWeek) ← exactDigits? 2 (body.drop 1)
    if afterWeek = [] then Date.ofWeek? year week 1
    else
      let (day, rest) ← exactDigits? 1 (← skipDash afterWeek)
      if rest = [] then Date.ofWeek? year week day else none
  else
    let (month, afterMonth) ← exactDigits? 2 body
    let (day, rest) ← exactDigits? 2 (← skipDash afterMonth)
    if rest = [] then Date.ofParts? year month day else none

/-- Hours, minutes, seconds and microseconds as read; `ended` says that nothing unread is left. -/
structure ClockFields where
  hour : Nat
  minute : Nat
  second : Nat
  micro : Nat
  ended : Bool

/-- Reads a fraction of up to six digits; `final` says that the text ends with it. -/
def readFraction? (final : Bool) (cs : List Char) : Option (Nat × Bool) := do
  let count := min 6 cs.length
  let (digits, rest) ← exactDigits? count cs
  let ended :=
    match rest.dropWhile fun c => (asciiDigit? c).isSome with
    | [] => final
    | c :: _ => c = Char.ofNat 0
  return (digits * Number.tenTo (6 - count), ended)

/-- Reads up to `fuel` more two-digit fields and a fraction; `fields` holds those read, last first.
-/
def readClockFrom? (final : Bool) :
    Nat → Option Bool → List Nat → List Char → Option (List Nat × Nat × Bool)
  | 0, _, fields, cs => (readFraction? final cs).map fun (micro, ended) => (fields, micro, ended)
  | fuel + 1, colons, fields, cs => do
    let (value, rest) ← exactDigits? 2 cs
    let fields := value :: fields
    match rest with
    | [] => some (fields, 0, final)
    | c :: tail =>
      if tail = [] ∧ c.toNat < 128 then some (fields, 0, c = Char.ofNat 0)
      else
        let colons := colons.getD (c = ':')
        if colons ∧ c = ':' then readClockFrom? final fuel (some colons) fields tail
        else if c = '.' ∨ c = ',' then
          (readFraction? final tail).map fun (micro, ended) => (fields, micro, ended)
        else if colons then none
        else readClockFrom? final fuel (some colons) fields rest

def readClockFields? (final : Bool) (cs : List Char) : Option ClockFields := do
  let (fields, micro, ended) ← readClockFrom? final 3 none [] cs
  let inOrder := fields.reverse
  return ⟨inOrder.getD 0 0, inOrder.getD 1 0, inOrder.getD 2 0, micro, ended⟩

/-- An offset of no whole seconds is universal time, whatever its fraction. -/
def readOffset? (negative : Bool) (cs : List Char) : Option Offset := do
  let fields ← readClockFields? true cs
  let seconds := fields.hour * 3600 + fields.minute * 60 + fields.second
  if !fields.ended then none
  else if seconds = 0 then some Offset.utc
  else
    let size : Int := seconds * 1000000 + fields.micro
    Offset.ofMicros? (if negative then -size else size)

/-- A time with an offset after the first sign, or without one. -/
def readTime? (cs : List Char) : Option (Clock × Option Offset) := do
  let isSign (c : Char) : Bool := c = '+' || c = '-'
  let body := cs.takeWhile fun c => !isSign c
  match cs.dropWhile fun c => !isSign c with
  | [] =>
    let fields ← readClockFields? true body
    let clock ← Clock.ofParts? fields.hour fields.minute fields.second fields.micro
    if fields.ended then some (clock, none) else none
  | sign :: zone =>
    let fields ← readClockFields? false body
    let clock ← Clock.ofParts? fields.hour fields.minute fields.second fields.micro
    let offset ← readOffset? (sign = '-') zone
    return (clock, some offset)

/-- Reads a date and time; a date alone is its midnight. -/
def DateTime.read? (s : String) : Option DateTime := do
  let cs := s.toList
  let length := dateLength cs
  let date ← readDateFields? (cs.take length)
  match cs.drop length with
  | [] => return ⟨date, .midnight, none⟩
  | _ :: time =>
    let (clock, offset) ← readTime? time
    return ⟨date, clock, offset⟩

def Date.read? (s : String) : Option Date := readDateFields? s.toList

end LoanDispatch.Calendar
