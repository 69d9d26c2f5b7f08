import LoanDispatch.Calendar.Printer
import LoanDispatch.Number.Shortest
import LoanDispatch.Text.Quoted
import LoanDispatch.Value.Basic

/-!
The text of a value.  A text is its own text; a list, mapping or record shows its parts as literals.
-/

set_option autoImplicit false

namespace LoanDispatch

open Text

/-- The literal of an offset, as the time span that it is. -/
def Calendar.Offset.literal (offset : Offset) : String :=
  if offset.micros = 0 then "datetime.timezone.utc"
  else
    let days := offset.micros / dayMicros
    let rest := (offset.micros % dayMicros).toNat
    let part (label : String) (n : Int) : List String :=
      if n = 0 then [] else [label ++ "=" ++ toString n]
    let parts :=
      part "days" days ++ part "seconds" (rest / 1000000) ++ part "microseconds" (rest % 1000000)
    "datetime.timezone(datetime.timedelta(" ++ join ", " parts ++ "))"

/-- Seconds and microseconds are shown from the first one that is not zero. -/
def Calendar.DateTime.literal (moment : DateTime) : String :=
  let date := moment.date
  let clock := moment.clock
  let fine : List Nat :=
    if clock.micro ≠ 0 then [clock.second, clock.micro]
    else if clock.second ≠ 0 then [clock.second]
    else []
  let numbers := [date.year, date.month, date.day, clock.hour, clock.minute] ++ fine
  let zone :=
    match moment.offset with
    | some offset => ["tzinfo=" ++ offset.literal]
    | none => []
  "datetime.datetime(" ++ join ", " (numbers.map toString ++ zone) ++ ")"

def Calendar.Date.literal (date : Date) : String :=
  "datetime.date(" ++ join ", " ([date.year, date.month, date.day].map toString) ++ ")"

namespace Value

def boolText (flag : Bool) : String := if flag then "True" else "False"

mutual

def literal : Value → String
  | .null => "None"
  | .bool flag => boolText flag
  | .int number => toString number
  | .float number => number.shortestText
  | .text words => Text.literal words
  | .list items => "[" ++ join ", " (literals items) ++ "]"
  | .tuple [item] => "(" ++ item.literal ++ ",)"
  | .tuple items => "(" ++ join ", " (literals items) ++ ")"
  | .map entries => "\x7b" ++ join ", " (entryLiterals entries) ++ "\x7d"
  | .dateTime moment => moment.literal
  | .date day => day.literal
  | .channel member =>
    "<SubmissionMethod." ++ member.memberName ++ ": " ++ Text.literal member.code ++ ">"
  | .foreign words => "Decimal(" ++ Text.literal words ++ ")"
  | .record kind fields => kind.name ++ "(" ++ join ", " (fieldLiterals fields) ++ ")"

def literals : List Value → List String
  | [] => []
  | item :: rest => item.literal :: literals rest

def entryLiterals : List (String × Value) → List String
  | [] => []
  | (key, value) :: rest => (Text.literal key ++ ": " ++ value.literal) :: entryLiterals rest

def fieldLiterals : List (String × Value) → List String
  | [] => []
  | (key, value) :: rest => (key ++ "=" ++ value.literal) :: fieldLiterals rest

end

def display : Value → String
  | .text words => words
  | .dateTime moment => moment.textWith " "
  | .date day => day.isoText
  | .channel member => "SubmissionMethod." ++ member.memberName
  | .foreign words => words
  | value => value.literal

end Value

end LoanDispatch
