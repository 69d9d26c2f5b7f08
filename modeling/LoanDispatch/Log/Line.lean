import LoanDispatch.Calendar.Epoch
import LoanDispatch.Calendar.Printer
import LoanDispatch.Json.Printer
import LoanDispatch.Log.Context
import LoanDispatch.Log.Note
import LoanDispatch.Log.Template
import LoanDispatch.Value.Json

/-!
Log lines.  A record is what a logger hands over: a note whose message is still a template, and
where and when it was written.  It becomes a line of one JSON document, or of coloured text that
begins with the delivery it belongs to.
-/

set_option autoImplicit false

namespace LoanDispatch.Log

open Calendar

structure Origin where
  time : EpochTime
  seconds : Int
  path : String
  function : String
  line : Int

namespace Origin

/-- The moment of a count of seconds, rounded for the stamp and cut off for the clock. -/
def timeOf (created : Value) : Except Misfit (EpochTime × Int) :=
  match created with
  | .int seconds => .ok (.ofSeconds seconds, seconds)
  | .float count =>
    match EpochTime.ofBinary64? count, EpochTime.floorSeconds? count with
    | some time, some seconds => .ok (time, seconds)
    | _, _ => .error (.noIntegerPart (count != .nan))
  | value => .error (.notIntegral value.kindName)

/-- The name of a file without its last extension; dots at its front begin none. -/
def moduleName (path : String) : String :=
  let base := Text.afterLast '/' path.toList
  let dots := base.takeWhile (· = '.')
  let rest := base.drop dots.length
  let extension := Text.afterLast '.' rest
  if rest.contains '.' then
    String.ofList (dots ++ rest.take (rest.length - extension.length - 1))
  else String.ofList base

/-- The place of an entry: file, function and line. -/
def place (origin : Origin) : String :=
  moduleName origin.path ++ "." ++ origin.function ++ ":" ++ toString origin.line

def stamp (origin : Origin) : Except Misfit String :=
  match origin.time.moment? with
  | some moment => .ok moment.isoText
  | none => .error (.badMoment (toString origin.time.seconds))

def clockText (origin : Origin) : String :=
  let second := EpochTime.secondOfDay origin.seconds
  Text.padZeros 2 (second / 3600) ++ ":" ++ Text.padZeros 2 (second / 60 % 60) ++ ":"
    ++ Text.padZeros 2 (second % 60)

end Origin

structure Record where
  level : Level
  logger : String
  template : String
  arguments : Arguments
  fields : List (String × Value)
  exception : Option Summary
  origin : Origin

namespace Record

def toEntry (record : Record) (context : List (String × Value)) : Except Misfit Entry :=
  (Template.fill record.template record.arguments).map fun message =>
    ⟨⟨record.level, record.logger, message, record.fields, record.exception⟩, context⟩

/-- The record as one JSON document; what JSON does not know is shown as text.  A moment that cannot
be stamped counts before a message that cannot be put together. -/
def jsonLine (record : Record) (context : List (String × Value)) : Except Misfit String := do
  let stamp ← record.origin.stamp
  let entry ← record.toEntry context
  let fields :=
    ("timestamp", Value.text stamp) :: entry.head
      ++ ("source", .text record.origin.place) :: entry.tail
  let document ← (Value.map fields).toJson .display
  return document.write Json.spaced

def colorCode (number : String) : String := (Char.ofNat 27).toString ++ "[" ++ number ++ "m"

/-- The colours of the levels that have one; 0 ends a colour. -/
def colorOf (level : Level) : String :=
  if level = .debug then colorCode "36"
  else if level = .info then colorCode "32"
  else if level = .warning then colorCode "33"
  else if level = .error then colorCode "31"
  else if level = ⟨50⟩ then colorCode "35"
  else colorCode "0"

def tagLength : Nat := 12

/-- The delivery that a context belongs to: application, channel and attempt. -/
def deliveryTag (context : List (String × Value)) : Except Misfit String := do
  let id := Value.getD "application_id" context
  let channel := Value.getD "channel" context
  let attempt := Value.getD "attempt" context
  if !id.isGiven then return ""
  let application ← id.printed
  let route ← if channel.isGiven then channel.printed.map (" " ++ ·) else pure ""
  let count ← if attempt.isNull then pure "" else attempt.printed.map ("#" ++ ·)
  return " [" ++ String.ofList (application.toList.take tagLength) ++ route ++ count ++ "]"

/-- The record as coloured text; a failure stands on a line of its own. -/
def prettyLine (record : Record) (context : List (String × Value)) : Except Misfit String := do
  let tag ← deliveryTag context
  let entry ← record.toEntry context
  return colorOf record.level ++ record.origin.clockText ++ " " ++ Text.padEnd 8 record.level.name
    ++ colorCode "0" ++ tag ++ " " ++ record.logger ++ ": " ++ entry.note.message
    ++ (record.exception.map fun summary =>
      "\n  " ++ summary.className ++ ": " ++ summary.text).getD ""

end Record

end LoanDispatch.Log
