import LoanDispatch.Text.Point
import LoanDispatch.Value.Basic

/-!
The outcome of one delivery attempt: accepted, appended, duplicate, or a failure with a reason that
says whether another attempt is worth while.
-/

set_option autoImplicit false

namespace LoanDispatch

inductive Status where
  | accepted
  | appended
  | duplicate
  | timeout
  | error
  deriving DecidableEq

def Status.code : Status → String
  | .accepted => "accepted"
  | .appended => "appended"
  | .duplicate => "duplicate"
  | .timeout => "timeout"
  | .error => "error"

inductive FailureReason where
  | lenderTimeout
  | lenderError
  | sheetError
  deriving DecidableEq

def FailureReason.code : FailureReason → String
  | .lenderTimeout => "lender_timeout"
  | .lenderError => "lender_error"
  | .sheetError => "google_sheet_error"

/-- What an outcome refers to: a value, or a text with half of a surrogate pair on its own. -/
inductive Reference where
  | whole (value : Value)
  | torn (points : List Text.Point)

namespace Reference

def ofPoints (points : List Text.Point) : Reference :=
  match Text.Point.chars? points with
  | some cs => .whole (.text (String.ofList cs))
  | none => .torn points

/-- The reference as a value, with the replacement character for each half on its own. -/
def shown : Reference → Value
  | .whole value => value
  | .torn points => .text (Text.Point.settle points)

end Reference

structure Outcome where
  success : Bool
  status : Status
  detail : Value
  reference : Reference
  reason : Option FailureReason
  retryable : Bool

namespace Outcome

def succeeded (status : Status) (detail reference : Value) : Outcome :=
  ⟨true, status, detail, .whole reference, none, false⟩

/-- An acceptance with the reference that the other side gave. -/
def accepted (reference : Reference) : Outcome :=
  ⟨true, .accepted, .null, reference, none, false⟩

def failed (status : Status) (reason : FailureReason) (retryable : Bool) (detail : Value) :
    Outcome :=
  ⟨false, status, detail, .whole .null, some reason, retryable⟩

def reasonValue (outcome : Outcome) : Value :=
  (outcome.reason.map fun reason => Value.text reason.code).getD .null

/-- The serialised outcome of an attempt that ended at a time. -/
def toDictionary (outcome : Outcome) (receivedAt : String) : Value :=
  .map
    [("success", .bool outcome.success),
     ("response", .map
       [("status", .text outcome.status.code), ("detail", outcome.detail),
        ("received_at", .text receivedAt), ("external_reference", outcome.reference.shown)]),
     ("failure_reason", outcome.reasonValue),
     ("retryable", .bool outcome.retryable)]

end Outcome

end LoanDispatch
