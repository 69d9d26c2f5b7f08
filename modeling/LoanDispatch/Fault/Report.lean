import LoanDispatch.Fault.Misfit
import LoanDispatch.Fault.Problem

/-!
Reports of the library's own errors: a message, a code and details.  `build` makes a report from
arguments of any kind, as a caller outside the library may.
-/

set_option autoImplicit false

namespace LoanDispatch

inductive ReportKind where
  | general
  | lenderNotFound
  | config
  | unsupportedMethod
  | layout
  | service
  deriving DecidableEq

structure Report where
  kind : ReportKind
  message : Value
  code : Value
  details : Value
  /-- The status that the failed service answered, for service failures only. -/
  status : Option Value

namespace ReportKind

def name : ReportKind → String
  | .general => "LenderDeliveryError"
  | .lenderNotFound => "LenderNotFoundError"
  | .config => "SubmissionConfigError"
  | .unsupportedMethod => "UnsupportedSubmissionMethodError"
  | .layout => "LedgerValidationError"
  | .service => "ExternalServiceError"

def all : List ReportKind :=
  [.general, .lenderNotFound, .config, .unsupportedMethod, .layout, .service]

def ofName? (name : String) : Option ReportKind := all.find? fun kind => kind.name == name

def code : ReportKind → String
  | .general => "INTERNAL_ERROR"
  | .lenderNotFound => "LENDER_NOT_FOUND"
  | .config => "SUBMISSION_CONFIG_ERROR"
  | .unsupportedMethod => "UNSUPPORTED_SUBMISSION_METHOD"
  | .layout => "LEDGER_VALIDATION_ERROR"
  | .service => "EXTERNAL_SERVICE_ERROR"

def positional : ReportKind → List String
  | .general | .config | .layout => ["message"]
  | .lenderNotFound => ["lender_id"]
  | .unsupportedMethod => ["method"]
  | .service => ["service", "message"]

def named : ReportKind → List String
  | .general => ["error_code", "details"]
  | .config => ["field"]
  | .service => ["status_code"]
  | _ => []

def required : ReportKind → List String
  | .general => []
  | .service => ["service"]
  | kind => kind.positional

def takesDetails : ReportKind → Bool
  | .config | .layout | .service => true
  | _ => false

end ReportKind

namespace Report

/-- The arguments under the names of their parameters; none when they do not match. -/
def bind? (kind : ReportKind) (args : List Value) (named : List (String × Value)) :
    Option (List (String × Value)) :=
  let placed := kind.positional.zip args
  let known := kind.positional ++ kind.named
  if kind.positional.length < args.length then none
  else if named.any fun entry => placed.any fun given => given.1 == entry.1 then none
  else if !kind.takesDetails && named.any fun entry => !known.contains entry.1 then none
  else
    let all := placed ++ named
    if kind.required.all fun name => all.any fun entry => entry.1 == name then some all else none

def serviceMessage (service message : Value) : String :=
  "External service '" ++ service.display ++ "' failed: " ++ message.display

def make (kind : ReportKind) (message : String) (details : List (String × Value)) : Report :=
  ⟨kind, .text message, .text kind.code, .map details, none⟩

def build (kind : ReportKind) (args : List Value) (named : List (String × Value)) :
    Except Misfit Report :=
  match bind? kind args named with
  | none => .error .wrongArguments
  | some given =>
    let known := kind.positional ++ kind.named
    let further := named.filter fun entry => !known.contains entry.1
    let get (name : String) (default : Value) : Value := (Entries.lookup name given).getD default
    match kind with
    | .general =>
      .ok ⟨kind, get "message" (.text "An unexpected error occurred"),
        get "error_code" (.text kind.code), (get "details" .null).orElse (.map []), none⟩
    | .lenderNotFound => .ok (make kind "Lender not found." [("lender_id", get "lender_id" .null)])
    | .config =>
      let field := get "field" .null
      let details := if field.isGiven then Entries.insert "field" field further else further
      .ok ⟨kind, get "message" .null, .text kind.code, .map details, none⟩
    | .unsupportedMethod =>
      .ok (make kind "Unsupported submission method."
        [("method", .text (get "method" .null).display)])
    | .layout => .ok ⟨kind, get "message" .null, .text kind.code, .map further, none⟩
    | .service =>
      let service := get "service" .null
      let status := get "status_code" .null
      .ok ⟨kind, .text (serviceMessage service (get "message" (.text ""))), .text kind.code,
        .map (Entries.merge [("service", service), ("status_code", status)] further), some status⟩

end Report

end LoanDispatch
