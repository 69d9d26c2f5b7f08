import LoanDispatch.Fault.Basic
import LoanDispatch.Json.Reader
import LoanDispatch.Text.Blank
import LoanDispatch.Value.OfJson

/-!
The failure that an error reply of the spreadsheet service stands for.  The reason is the message
inside the body's error, if the body is a document of that shape, and the error details are the
first of four entries beside it; a body of another shape is a detail itself.
-/

set_option autoImplicit false

namespace LoanDispatch.RemoteFailure

def defaultReason : String := "Ok"

def detailEntries : List String := ["detail", "details", "errors", "message"]

def errorMessage? (document : Json) : Option (Json × Json) := do
  let error ← document.get? "error"
  let message ← error.get? "message"
  return (error, message)

def readReply (body : String) : Value × Value :=
  match Json.read? body.toList with
  | none => (.text defaultReason, .text body)
  | some (.object entries) =>
    match errorMessage? (.object entries) with
    | none => (.text defaultReason, .text "")
    | some (error, message) =>
      let details := (detailEntries.findSome? fun name => error.get? name).getD (.text "")
      (.ofJson message, .ofJson details)
  | some (.array (first :: _)) =>
    match errorMessage? first with
    | none => (.text defaultReason, .text "")
    | some (error, message) =>
      (.ofJson message, .ofJson ((error.get? "details").getD (.text "")))
  | some document => (.text defaultReason, .ofJson document)

/-- The fault of an error reply; a reason that is neither a text nor null does not fit. -/
def ofReply (status : Int) (body : String) (properties : List (String × Value)) : Fault :=
  let (reason, details) := readReply body
  let fault (reason : String) : Fault :=
    .remote ⟨.apiReply status (Text.trim reason) details, "HttpError", "", properties⟩
  match reason with
  | .text reason => fault reason
  | .null => fault ""
  | other => .misfit (.noAttribute other.kindName "strip")

end LoanDispatch.RemoteFailure
