import LoanDispatch.Fault.Problem
import LoanDispatch.Ledger.SheetConfig
import LoanDispatch.Text.Blank
import LoanDispatch.Text.Case

/-!
Lender profiles.  A stored row holds whatever was entered for a lender; a profile is a row that has
been checked and can be submitted with.  Text that names no channel means email.
-/

set_option autoImplicit false

namespace LoanDispatch

open Ledger (SheetConfig)

structure LenderRow where
  method : Value
  email : Value
  name : Value
  config : Value

namespace LenderRow

def toValue (row : LenderRow) : Value :=
  .record .lenderRow
    [("submission_method", row.method), ("submission_email", row.email), ("name", row.name),
     ("submission_config", row.config)]

end LenderRow

structure Profile where
  lenderId : Value
  lenderName : Value
  method : Value
  email : Value
  config : Value

namespace Profile

def toValue (profile : Profile) : Value :=
  .record .profile
    [("lender_id", profile.lenderId), ("lender_name", profile.lenderName),
     ("method", profile.method), ("submission_email", profile.email),
     ("submission_config", profile.config)]

def formerSheetCode : String := "google_sheets"

def channelOf (method : Value) : Channel :=
  match method.text? with
  | none => .email
  | some words =>
    let code := Text.lower (Text.trim words)
    if code = formerSheetCode then .googleSheet else (Channel.ofCode? code).getD .email

/-- The entry of a configuration without blanks around it; anything but a text is blank. -/
def trimmedEntry (name : String) (entries : List (String × Value)) : String :=
  Text.trim (((Value.getD name entries).text?).getD "")

def sheetConfig (config : Value) : Except ConfigProblem SheetConfig :=
  match config with
  | .map entries =>
    let spreadsheetId := trimmedEntry "spreadsheetId" entries
    let version := trimmedEntry "columnMapVersion" entries
    let sheetName := trimmedEntry "sheetName" entries
    if spreadsheetId = "" then .error .spreadsheetIdMissing
    else if version = "" then .error .columnMapVersionMissing
    else .ok ⟨spreadsheetId, version, if sheetName = "" then none else some sheetName⟩
  | _ => .error .sheetConfigMissing

/-- The email address of a row without blanks around it. -/
def emailAddress (lenderId : Value) (email : Value) : Except ConfigProblem Value :=
  let address := Text.trim (email.text?.getD "")
  if address = "" then .error (.emailMissing lenderId) else .ok (.text address)

/-- The email address of a profile; what the channel of the row needs is checked. -/
def checkedEmail (lenderId : Value) (row : LenderRow) : Except ConfigProblem Value :=
  match channelOf row.method with
  | .email => emailAddress lenderId row.email
  | .api => if row.config.isNull then .error (.apiConfigMissing lenderId) else .ok row.email
  | .googleSheet => (sheetConfig row.config).map fun _ => row.email

/-- The profile of a row that has what its channel needs. -/
def ofRow (lenderId : Value) (row : LenderRow) : Except ConfigProblem Profile :=
  (checkedEmail lenderId row).map fun email =>
    ⟨lenderId, row.name.orElse (.text ""), .channel (channelOf row.method), email, row.config⟩

end Profile

end LoanDispatch
