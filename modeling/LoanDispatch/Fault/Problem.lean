import LoanDispatch.Value.Display

/-!
What is wrong with a lender's configuration or with a sheet.  Every problem has a wording and the
details that help to mend it.
-/

set_option autoImplicit false

namespace LoanDispatch

/-- The configuration of a lender, a column map or the deployment cannot be used. -/
inductive ConfigProblem where
  | versionMissing
  | columnsMissing (version : String)
  | headersRepeated (version : String)
  | identifierCount (version : String) (found : Nat)
  | versionUnknown (version : Value)
  | sheetConfigMissing
  | spreadsheetIdMissing
  | columnMapVersionMissing
  | emailMissing (lenderId : Value)
  | apiConfigMissing (lenderId : Value)
  | credentialsMissing

/-- The sheet does not have the layout that its column map asks for. -/
inductive LayoutProblem where
  | tabNotFound (requested : Value)
  | noTab
  | headerRowMissing (title : Value)
  | headersMissing (headers : List String) (version : String)
  | identifierUnmapped
  | identifierColumnMissing (header : String)

def identifierPath : String := "application.id"

namespace ConfigProblem

def message : ConfigProblem → String
  | .versionMissing => "Column map version is required."
  | .columnsMissing _ => "Column map must define at least one column."
  | .headersRepeated _ => "Column map headers must be unique."
  | .identifierCount .. => "Column map must map exactly one header to " ++ identifierPath ++ "."
  | .versionUnknown _ => "Google Sheet columnMapVersion is invalid."
  | .sheetConfigMissing => "Google Sheet submission config is required."
  | .spreadsheetIdMissing => "submission_config.spreadsheetId is required."
  | .columnMapVersionMissing => "submission_config.columnMapVersion is required."
  | .emailMissing _ => "Submission email is required."
  | .apiConfigMissing _ => "Submission config is required for API submissions."
  | .credentialsMissing => "Missing Google service account credentials."

def field : ConfigProblem → String
  | .versionMissing => "version"
  | .columnsMissing _ | .headersRepeated _ | .identifierCount .. => "columns"
  | .versionUnknown _ | .columnMapVersionMissing => "columnMapVersion"
  | .sheetConfigMissing | .apiConfigMissing _ => "submission_config"
  | .spreadsheetIdMissing => "spreadsheetId"
  | .emailMissing _ => "submission_email"
  | .credentialsMissing => "GOOGLE_SERVICE_ACCOUNT_EMAIL"

def particulars : ConfigProblem → List (String × Value)
  | .columnsMissing version | .headersRepeated version => [("version", .text version)]
  | .identifierCount version found => [("version", .text version), ("matches", .int found)]
  | .versionUnknown version => [("version", version)]
  | .emailMissing lenderId | .apiConfigMissing lenderId => [("lender_id", lenderId)]
  | _ => []

def details (problem : ConfigProblem) : List (String × Value) :=
  problem.particulars ++ [("field", .text problem.field)]

end ConfigProblem

namespace LayoutProblem

def message : LayoutProblem → String
  | .tabNotFound _ => "Unable to access requested Google Sheet tab."
  | .noTab => "Unable to resolve Google Sheet tab name."
  | .headerRowMissing _ => "Google Sheet header row is missing."
  | .headersMissing .. => "Google Sheet mapping does not match sheet headers."
  | .identifierUnmapped => "Application ID mapping is required."
  | .identifierColumnMissing _ => "Application ID column is missing from sheet."

def details : LayoutProblem → List (String × Value)
  | .tabNotFound requested => [("sheet_name", requested)]
  | .noTab | .identifierUnmapped => []
  | .headerRowMissing title => [("sheet_title", title)]
  | .headersMissing headers version =>
    [("missing_headers", .list (headers.map .text)), ("column_map_version", .text version)]
  | .identifierColumnMissing header => [("header", .text header)]

end LayoutProblem

end LoanDispatch
