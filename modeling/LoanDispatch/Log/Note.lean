import LoanDispatch.Value.Basic

/-!
Notes for the log.  A note has a level, the name of its logger, a message, and the fields that
correlate it with a delivery; an entry is a note together with the context it was written in.
-/

set_option autoImplicit false

namespace LoanDispatch.Log

structure Level where
  number : Int
  deriving DecidableEq

namespace Level

def debug : Level := ⟨10⟩

def info : Level := ⟨20⟩

def warning : Level := ⟨30⟩

def error : Level := ⟨40⟩

def names : List (Int × String) :=
  [(0, "NOTSET"), (10, "DEBUG"), (20, "INFO"), (30, "WARNING"), (40, "ERROR"), (50, "CRITICAL")]

/-- A level without a name is named by its number. -/
def name (level : Level) : String :=
  match names.find? fun known => known.1 == level.number with
  | some known => known.2
  | none => "Level " ++ toString level.number

end Level

def correlationFields : List String :=
  ["application_id", "lender_id", "spreadsheet_id", "sheet_title", "channel", "attempt",
   "failure_reason", "status_code", "duration_ms"]

/-- The class and text of a failure that a note reports. -/
structure Summary where
  className : String
  text : String

structure Note where
  level : Level
  logger : String
  message : String
  fields : List (String × Value)
  exception : Option Summary

structure Entry where
  note : Note
  context : List (String × Value)

namespace Entry

def head (entry : Entry) : List (String × Value) :=
  [("level", .text entry.note.level.name), ("logger", .text entry.note.logger),
   ("message", .text entry.note.message)]

/-- The correlation fields of the note, in their fixed order. -/
def correlation (entry : Entry) : List (String × Value) :=
  correlationFields.filterMap fun name =>
    (Entries.lookup name entry.note.fields).map fun value => (name, value)

/-- The context when there is one, the correlation fields, and the failure when there is one. -/
def tail (entry : Entry) : List (String × Value) :=
  (if entry.context.isEmpty then [] else [("context", .map entry.context)])
    ++ entry.correlation
    ++ (entry.note.exception.map fun summary =>
      ("exception",
        Value.map [("type", .text summary.className), ("message", .text summary.text)])).toList

end Entry

end LoanDispatch.Log
