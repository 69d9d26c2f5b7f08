import LoanDispatch.Script.Basic
import LoanDispatch.Settings.Basic
import LoanDispatch.Value.Integer
import LoanDispatch.Value.Dictionary

/-!
Clients of a spreadsheet service.  A client reads the titles of the tabs, reads a range, and appends
a row, whose range it reports.  The plain client takes the answers as they are; the client of the
service's programming interface finds them inside reply documents and turns error replies into
service failures.
-/

set_option autoImplicit false

namespace LoanDispatch.Spreadsheet

structure Client where
  titles : String → Script Value
  values : String → String → Script Value
  append : String → String → List Value → Script Value

namespace Client

/-- The name that the spreadsheet service goes by in failures. -/
def serviceName : String := "google_sheets"

def logger : String := "backend.lender_delivery.submissions.channels.sheets_client"

def plain : Client where
  titles spreadsheetId := .askSheet (.titles spreadsheetId)
  values spreadsheetId range := .askSheet (.values spreadsheetId range)
  append spreadsheetId range row := .askSheet (.append spreadsheetId range row)

/-- The status of an error reply as an integer, or null when the reply has none. -/
def replyStatus (fault : Fault) : Except Misfit Value :=
  let reply := fault.property "resp"
  let status := Value.getD "status" (reply.entries?.getD [])
  if status.isNull then .ok .null else status.toInteger.map .int

def serviceFault (fault : Fault) : Fault :=
  match replyStatus fault with
  | .error misfit => .misfit misfit
  | .ok status =>
    .service
      { service := .text serviceName
        message := (fault.property "reason").orElse (.text fault.text)
        status := status
        extra := [("uri", fault.property "uri")]
        properties := [] }

/-- Error replies become service failures; every other fault is kept. -/
def raisedFault (fault : Fault) : Fault :=
  match fault with
  | .remote ⟨.apiReply .., _, _, _⟩ => serviceFault fault
  | _ => fault

/-- Asks for a reply document; a missing one counts as empty. -/
def askDocument (request : SheetRequest) : Script Value :=
  (Script.askSheet request).andThen fun
    | .ok document => .done (.ok (document.orElse (.map [])))
    | .error fault => .fail (raisedFault fault)

def entry (name : String) (document : Value) : Except Misfit Value :=
  match document with
  | .map entries => .ok (Value.getD name entries)
  | _ => .error (.noAttribute document.kindName "get")

/-- The title inside a document about a tab, or null. -/
def titleOf (sheet : Value) : Except Misfit Value := do
  let properties ← entry "properties" (sheet.orElse (.map []))
  entry "title" (properties.orElse (.map []))

/-- The titles inside a reply; tabs without one are left out. -/
def titlesOf (document : Value) : Except Misfit Value := do
  let sheets ← entry "sheets" document
  let titles ← (← (sheets.orElse (.list [])).iterate).mapM titleOf
  return .list (titles.filter Value.isGiven)

def valuesOf (document : Value) : Except Misfit Value := do
  return (← entry "values" document).orElse (.list [])

/-- The range inside the reply to an append, or null. -/
def rangeOf (document : Value) : Except Misfit Value := do
  let updates ← entry "updates" document
  entry "updatedRange" (updates.orElse (.map []))

def interface : Client where
  titles spreadsheetId := do
    .ofMisfit (titlesOf (← askDocument (.titles spreadsheetId)))
  values spreadsheetId range := do
    .ofMisfit (valuesOf (← askDocument (.values spreadsheetId range)))
  append spreadsheetId range row := do
    let reported ← .ofMisfit (rangeOf (← askDocument (.append spreadsheetId range row)))
    .write ⟨.debug, logger, "[SHEET] Appended to " ++ range ++ " → " ++ reported.display, [], none⟩
    return reported

/-- What the programming interface is asked for besides the addresses: the titles alone, and rows
stored as they are in rows of their own. -/
def interfaceArguments : SheetRequest → List Value
  | .titles spreadsheetId => [.text spreadsheetId, .text "sheets.properties.title"]
  | .values spreadsheetId range => [.text spreadsheetId, .text range]
  | .append spreadsheetId range row =>
    [.text spreadsheetId, .text range, .text "RAW", .text "INSERT_ROWS",
     .map [("values", .list [.list row])]]

def plainArguments : SheetRequest → List Value
  | .titles spreadsheetId => [.text spreadsheetId]
  | .values spreadsheetId range => [.text spreadsheetId, .text range]
  | .append spreadsheetId range row => [.text spreadsheetId, .text range, .list row]

end Client

end LoanDispatch.Spreadsheet
