import LoanDispatch.Fault.Misfit
import LoanDispatch.Log.Note
import LoanDispatch.Settings.Basic
import LoanDispatch.Text.Case

/-!
How logging is set up by the settings: the least level that is written, the form of the lines, and
the loggers that are kept quiet.
-/

set_option autoImplicit false

namespace LoanDispatch.Log

inductive LineForm where
  | json
  | pretty
  deriving DecidableEq

def LineForm.name : LineForm → String
  | .json => "JSONFormatter"
  | .pretty => "PrettyFormatter"

structure Setup where
  level : Level
  form : LineForm
  quiet : List (String × Level)

namespace Setup

def levelWords : List (String × Level) :=
  [("NOTSET", ⟨0⟩), ("DEBUG", .debug), ("INFO", .info), ("WARN", .warning), ("WARNING", .warning),
   ("ERROR", .error), ("CRITICAL", ⟨50⟩), ("FATAL", ⟨50⟩)]

/-- The level that a word asks for.  Two words stand for something that is no level; any other
unknown word counts as the information level. -/
def levelOf (word : String) : Except Misfit Level :=
  let word := Text.raise word
  if word = "BASIC_FORMAT" then .error .badLevel
  else if word = "_STYLES" then .error .notLevel
  else .ok ((Entries.lookup word levelWords).getD .info)

def quietLoggers : List (String × Level) :=
  [("httpx", .warning), ("httpcore", .warning), ("googleapiclient.discovery", .warning),
   ("googleapiclient.discovery_cache", .error)]

def ofSettings (settings : Settings) : Except Misfit Setup :=
  (levelOf settings.logLevel).map fun level =>
    ⟨level, if settings.isProduction then .json else .pretty, quietLoggers⟩

end Setup

end LoanDispatch.Log
