import LoanDispatch.Json.Reader
import LoanDispatch.Settings.Basic
import LoanDispatch.Settings.Conversion
import LoanDispatch.Settings.EnvFile
import LoanDispatch.Value.OfJson

/-!
Reading settings.  A setting is taken from the first source that has it: values given outright, the
environment, the environment file, and the default.  All settings that do not fit are reported
together.
-/

set_option autoImplicit false

namespace LoanDispatch.Settings

inductive ReadingProblem where
  /-- A list in the environment or in its file is no JSON document. -/
  | unreadable (name : String)
  | unfit (places : List (String × Unfit))

structure Sources where
  given : List (String × Value)
  environment : List (String × String)
  file : Option String

namespace Sources

def empty : Sources := ⟨[], [], none⟩

def listName : String := "GOOGLE_SHEETS_SCOPES"

/-- The value of a variable.  A list is a JSON document, and null does not count as set. -/
def variableValue (name words : String) : Except ReadingProblem (List (String × Value)) :=
  if name = listName then
    match Json.read? words.toList with
    | none => .error (.unreadable name)
    | some .null => .ok []
    | some document => .ok [(name, .ofJson document)]
  else .ok [(name, .text words)]

def variableValues (entries : List (String × String)) :
    Except ReadingProblem (List (String × Value)) :=
  (entries.mapM fun entry => variableValue entry.1 entry.2).map List.flatten

def values (sources : Sources) : Except ReadingProblem (List (String × Value)) := do
  let environment ← variableValues sources.environment
  let file ← variableValues
    ((sources.file.map (EnvFile.read sources.environment)).getD [])
  return sources.given ++ environment ++ file

end Sources

/-- A setting, with the reasons why its value does not fit. -/
structure Field (α : Type) where
  value : α
  unfit : List (String × Unfit)

def field {α : Type} (values : List (String × Value)) (convert : Value → Except (List Unfit) α)
    (name : String) (default : α) : Field α :=
  match Entries.lookup name values with
  | none => ⟨default, []⟩
  | some value =>
    match convert value with
    | .ok converted => ⟨converted, []⟩
    | .error reasons => ⟨default, reasons.map fun reason => (name, reason)⟩

def single {α : Type} (convert : Value → Except Unfit α) (value : Value) : Except (List Unfit) α :=
  (convert value).mapError fun reason => [reason]

def ofValues (values : List (String × Value)) : Except ReadingProblem Settings :=
  let text := field values (single toText)
  let optional := field values (single toOptionalText)
  let integer := field values (single toInteger)
  let appName := text "APP_NAME" default.appName
  let appVersion := text "APP_VERSION" default.appVersion
  let environment := text "ENVIRONMENT" default.environment
  let logLevel := text "LOG_LEVEL" default.logLevel
  let databaseUrl := text "DATABASE_URL" default.databaseUrl
  let poolSize := integer "DATABASE_POOL_SIZE" default.databasePoolSize
  let maxOverflow := integer "DATABASE_MAX_OVERFLOW" default.databaseMaxOverflow
  let echo := field values (single toFlag) "DATABASE_ECHO" default.databaseEcho
  let email := optional "GOOGLE_SERVICE_ACCOUNT_EMAIL" default.serviceAccountEmail
  let key := optional "GOOGLE_SERVICE_ACCOUNT_PRIVATE_KEY" default.serviceAccountPrivateKey
  let tokenUri := text "GOOGLE_TOKEN_URI" default.tokenUri
  let scopes := field values toTexts Sources.listName default.sheetsScopes
  let mode := text "PARTNER_API_MODE" default.partnerMode
  let timeout := field values (single toNumber) "PARTNER_API_TIMEOUT_SECONDS"
    default.partnerTimeoutSeconds
  let fromAddress := text "SUBMISSION_FROM_ADDRESS" default.fromAddress
  let unfit := appName.unfit ++ appVersion.unfit ++ environment.unfit ++ logLevel.unfit
    ++ databaseUrl.unfit ++ poolSize.unfit ++ maxOverflow.unfit ++ echo.unfit ++ email.unfit
    ++ key.unfit ++ tokenUri.unfit ++ scopes.unfit ++ mode.unfit ++ timeout.unfit
    ++ fromAddress.unfit
  if unfit.isEmpty then
    .ok {
      appName := appName.value
      appVersion := appVersion.value
      environment := environment.value
      logLevel := logLevel.value
      databaseUrl := databaseUrl.value
      databasePoolSize := poolSize.value
      databaseMaxOverflow := maxOverflow.value
      databaseEcho := echo.value
      serviceAccountEmail := email.value
      serviceAccountPrivateKey := key.value
      tokenUri := tokenUri.value
      sheetsScopes := scopes.value
      partnerMode := mode.value
      partnerTimeoutSeconds := timeout.value
      fromAddress := fromAddress.value }
  else .error (.unfit unfit)

def read (sources : Sources) : Except ReadingProblem Settings := do
  ofValues (← sources.values)

def optionalValue (words : Option String) : Value := (words.map Value.text).getD .null

def toEntries (settings : Settings) : List (String × Value) :=
  [("APP_NAME", .text settings.appName),
   ("APP_VERSION", .text settings.appVersion),
   ("ENVIRONMENT", .text settings.environment),
   ("LOG_LEVEL", .text settings.logLevel),
   ("DATABASE_URL", .text settings.databaseUrl),
   ("DATABASE_POOL_SIZE", .int settings.databasePoolSize),
   ("DATABASE_MAX_OVERFLOW", .int settings.databaseMaxOverflow),
   ("DATABASE_ECHO", .bool settings.databaseEcho),
   ("GOOGLE_SERVICE_ACCOUNT_EMAIL", optionalValue settings.serviceAccountEmail),
   ("GOOGLE_SERVICE_ACCOUNT_PRIVATE_KEY", optionalValue settings.serviceAccountPrivateKey),
   ("GOOGLE_TOKEN_URI", .text settings.tokenUri),
   ("GOOGLE_SHEETS_SCOPES", .list (settings.sheetsScopes.map .text)),
   ("PARTNER_API_MODE", .text settings.partnerMode),
   ("PARTNER_API_TIMEOUT_SECONDS", .float settings.partnerTimeoutSeconds),
   ("SUBMISSION_FROM_ADDRESS", .text settings.fromAddress),
   ("is_production", .bool settings.isProduction),
   ("google_private_key", optionalValue settings.privateKey?),
   ("has_google_credentials", .bool settings.hasCredentials)]

end LoanDispatch.Settings
