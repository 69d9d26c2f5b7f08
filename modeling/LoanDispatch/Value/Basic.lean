import LoanDispatch.Calendar.Basic
import LoanDispatch.Channel
import LoanDispatch.Entries
import LoanDispatch.Number.Binary

/-!
Values of intake data.  Lender configurations, application metadata and sheet cells are free-form,
so they are values of one type: JSON data, dates, channels, foreign objects, and the records that
this library hands around.  Mappings have texts as keys, and mappings and records keep their order.
A foreign object is opaque: of what it can do only its text is known, so it always counts as given
and is never a number.
-/

set_option autoImplicit false

namespace LoanDispatch

inductive RecordKind where
  | application
  | document
  | payload
  | sheetConfig
  | profile
  | response
  | result
  | lenderRow
  | columnMap
  deriving DecidableEq

inductive Value where
  | null
  | bool (flag : Bool)
  | int (number : Int)
  | float (number : Number.Binary64)
  | text (text : String)
  | list (items : List Value)
  | tuple (items : List Value)
  | map (entries : List (String × Value))
  | dateTime (moment : Calendar.DateTime)
  | date (day : Calendar.Date)
  | channel (channel : Channel)
  | foreign (text : String)
  | record (kind : RecordKind) (fields : List (String × Value))

instance : Inhabited Value := ⟨.null⟩

namespace RecordKind

def name : RecordKind → String
  | .application => "ApplicationSnapshot"
  | .document => "DocumentSnapshot"
  | .payload => "SubmissionPayload"
  | .sheetConfig => "SpreadsheetConfig"
  | .profile => "SubmissionProfile"
  | .response => "SubmissionResponse"
  | .result => "SubmissionResult"
  | .lenderRow => "LenderConfigRow"
  | .columnMap => "ColumnMap"

/-- The declared fields with their defaults; a field without a default is required.  `now` is the
moment that fills the time stamps. -/
def declaredFields (now : Calendar.DateTime) (nowText : String) :
    RecordKind → List (String × Option Value)
  | .application =>
    [("id", none), ("name", some (.text "")), ("owner_user_id", some .null),
     ("metadata", some (.map [])), ("product_type", some (.text "")), ("lender_id", some .null),
     ("lender_product_id", some .null), ("requested_amount", some .null)]
  | .document =>
    [("document_id", none), ("document_type", none), ("title", none), ("version_id", none),
     ("version", none), ("metadata", some (.map [])), ("content", some (.text ""))]
  | .payload =>
    [("application", none), ("documents", some (.tuple [])), ("submitted_at", some (.dateTime now))]
  | .sheetConfig =>
    [("spreadsheet_id", none), ("column_map_version", none), ("sheet_name", some .null)]
  | .profile =>
    [("lender_id", none), ("lender_name", none), ("method", none), ("submission_email", some .null),
     ("submission_config", some .null)]
  | .response =>
    [("status", none), ("received_at", some (.text nowText)), ("detail", some .null),
     ("external_reference", some .null)]
  | .result =>
    [("success", none), ("response", none), ("failure_reason", some .null),
     ("retryable", some (.bool false))]
  | .lenderRow =>
    [("submission_method", some .null), ("submission_email", some .null), ("name", some .null),
     ("submission_config", some .null)]
  | .columnMap => [("version", none), ("columns", none)]

end RecordKind

namespace Value

/-- The value for a key, or null when there is none. -/
def getD (key : String) (entries : List (String × Value)) : Value :=
  (Entries.lookup key entries).getD .null

/-- A value counts as given unless it is null, false, a zero, or empty. -/
def isGiven : Value → Bool
  | .null => false
  | .bool flag => flag
  | .int number => number != 0
  | .float number => !number.isZero
  | .text words => words != ""
  | .list items => !items.isEmpty
  | .tuple items => !items.isEmpty
  | .map entries => !entries.isEmpty
  | _ => true

def orElse (value replacement : Value) : Value := if value.isGiven then value else replacement

def isNull : Value → Bool
  | .null => true
  | _ => false

/-- The text of a value that is a text; a channel is the text of its code. -/
def text? : Value → Option String
  | .text words => some words
  | .channel member => some member.code
  | _ => none

def isText (value : Value) : Bool := value.text?.isSome

def entries? : Value → Option (List (String × Value))
  | .map entries => some entries
  | _ => none

def items? : Value → Option (List Value)
  | .list items => some items
  | .tuple items => some items
  | _ => none

/-- The name of a value's kind, as error texts give it. -/
def kindName : Value → String
  | .null => "NoneType"
  | .bool _ => "bool"
  | .int _ => "int"
  | .float _ => "float"
  | .text _ => "str"
  | .list _ => "list"
  | .tuple _ => "tuple"
  | .map _ => "dict"
  | .dateTime _ => "datetime"
  | .date _ => "date"
  | .channel _ => "SubmissionMethod"
  | .foreign _ => "Decimal"
  | .record kind _ => kind.name

end Value

end LoanDispatch
