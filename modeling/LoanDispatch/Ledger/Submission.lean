import LoanDispatch.ColumnMap.Registry
import LoanDispatch.Fault.Status
import LoanDispatch.Ledger.Layout
import LoanDispatch.Ledger.SheetConfig
import LoanDispatch.Script.Duration
import LoanDispatch.Script.Outcome
import LoanDispatch.Spreadsheet.Client

/-!
Submitting an application to a ledger sheet.  The tab and its headers are checked, the identifier
column is searched, and only an application that is not there yet is appended as a new row.  Every
fault on the way becomes a failed outcome.
-/

set_option autoImplicit false

namespace LoanDispatch.Ledger

open Spreadsheet

def logger : String := "backend.lender_delivery.submissions.channels.spreadsheet_ledger"

inductive Placement where
  | existing (row : Nat)
  /-- A row was appended; the service reported its range. -/
  | appended (title range reference : Value)

def noteFields (config : SheetConfig) (payload : Payload) : List (String × Value) :=
  [("application_id", payload.application.id), ("spreadsheet_id", .text config.spreadsheetId),
   ("channel", .text Channel.googleSheet.code)]

def notice (level : Log.Level) (config : SheetConfig) (payload : Payload) (message : String)
    (more : List (String × Value)) : Script Unit :=
  .write ⟨level, logger, "[SHEET] " ++ message, noteFields config payload ++ more, none⟩

/-- The row number inside a reported range, or else the range itself. -/
def referenceOf (range : Value) : Except Misfit Value := do
  match ← reportedRow? range with
  | some row => return .text (toString row)
  | none => return range

def appendRow (client : Client) (map : ColumnMap) (config : SheetConfig) (payload : Payload)
    (title : Value) (headers : List String) : Script Placement := do
  let row ← .ofMisfit (buildRow payload map headers)
  let last ← .ofMisfit (columnLetters ((headers.length : Int) - 1))
  let range ← .ofMisfit (addressIn title ("A:" ++ last))
  let reported ← client.append config.spreadsheetId range row
  let reference ← .ofMisfit (referenceOf reported)
  return .appended title reported reference

def place (access : Except Fault Client) (registry : Registry) (config : SheetConfig)
    (payload : Payload) : Script Placement := do
  let client ← .ofFault access
  let map ← .ofFault (registry.find (.text config.columnMapVersion))
  let titles ← client.titles config.spreadsheetId
  let title ← .ofFault (pickTitle titles config.sheetName)
  let headerRange ← .ofMisfit (addressIn title "1:1")
  let headers ← .ofMisfit (headersOf (← client.values config.spreadsheetId headerRange))
  let identifier ← .ofFault ((checkHeaders map title headers).mapError .layout)
  let column := letters (headers.idxOf identifier)
  let columnRange ← .ofMisfit (addressIn title (column ++ ":" ++ column))
  let cells ← client.values config.spreadsheetId columnRange
  match ← .ofMisfit (existingRow cells payload.application.id) with
  | some row =>
    notice .info config payload
      ("Application " ++ payload.application.id.display ++ " already in " ++ title.display
        ++ " row " ++ toString row ++ ", skipping append")
      [("sheet_title", title)]
    return .existing row
  | none => appendRow client map config payload title headers

/-- The text that a failed outcome shows for a fault. -/
def failureDetail (fault : Fault) : Value :=
  ((fault.property "message").orElse (.text fault.text)).orElse
    (.text "Unknown Google Sheets error.")

def failure (config : SheetConfig) (payload : Payload) (fault : Fault) : Script Outcome := do
  let retryable ← .ofMisfit fault.isRetryable
  let detail := failureDetail fault
  notice .error config payload
    ("Submission of " ++ payload.application.id.display ++ " to " ++ config.spreadsheetId
      ++ " failed (retryable=" ++ (Value.bool retryable).display ++ "): " ++ detail.display)
    [("failure_reason", .text FailureReason.sheetError.code)]
  return .failed .error .sheetError retryable detail

def submit (access : Except Fault Client) (registry : Registry) (config : SheetConfig)
    (payload : Payload) : Script Outcome := do
  let start ← Script.readClock
  notice .info config payload
    ("Submitting application " ++ payload.application.id.display ++ " to spreadsheet "
      ++ config.spreadsheetId ++ " (map " ++ config.columnMapVersion ++ ")") []
  match ← (place access registry config payload).attempt with
  | .error fault => failure config payload fault
  | .ok (.existing row) =>
    return .succeeded .duplicate (.text "Application already exists in sheet.")
      (.text (toString row))
  | .ok (.appended title range reference) =>
    let duration := Script.duration start (← Script.readClock)
    notice .info config payload
      ("Appended application " ++ payload.application.id.display ++ " to " ++ title.display ++ " ("
        ++ range.display ++ ") in " ++ duration.amountText Script.durationFormat ++ " ms")
      [("sheet_title", title), ("duration_ms", .float duration)]
    return .succeeded .appended (.text "Application appended to Google Sheet.") reference

end LoanDispatch.Ledger
