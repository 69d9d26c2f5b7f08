import LoanDispatch.Fault.Status
import LoanDispatch.Json.Printer
import LoanDispatch.Number.Fixed
import LoanDispatch.Partner.Reference
import LoanDispatch.Payload.Reader
import LoanDispatch.Script.Basic
import LoanDispatch.Script.Duration
import LoanDispatch.Settings.Basic
import LoanDispatch.Url.Reader
import LoanDispatch.Value.Json
import LoanDispatch.Value.Printed

/-!
Submitting an application to a partner.  In simulation the outcome follows from the lender, the
attempt and the application alone.  Over the network the serialised payload is posted to the
endpoint, and the reply or the failure of the transport decides the outcome.
-/

set_option autoImplicit false

namespace LoanDispatch.Partner

structure Link where
  lenderId : Value
  attempt : Int
  endpoint : Option String
  mode : String
  timeout : Value

namespace Link

/-- A link takes mode and timeout from the settings unless they are given. -/
def make (settings : Settings) (lenderId : Value) (attempt : Int) (endpoint mode : Option String)
    (timeout : Value) : Link where
  lenderId := lenderId
  attempt := attempt
  endpoint := endpoint
  mode :=
    let wanted := mode.getD ""
    Text.lower (Text.trim (if wanted = "" then settings.partnerMode else wanted))
  timeout := if timeout.isNull then .float settings.partnerTimeoutSeconds else timeout

end Link

def logger : String := "backend.lender_delivery.submissions.channels.partner_api"

def notice (level : Log.Level) (link : Link) (payload : Payload) (message : String)
    (more : List (String × Value)) (exception : Option Log.Summary) : Script Unit :=
  .write
    { level := level
      logger := logger
      message := "[PARTNER_API] " ++ message
      fields :=
        [("application_id", payload.application.id), ("lender_id", link.lenderId),
         ("attempt", .int link.attempt), ("channel", .text Channel.api.code)] ++ more
      exception := exception }

def noteFailure (level : Log.Level) (link : Link) (payload : Payload) (reason : FailureReason)
    (message : String) : Script Unit :=
  notice level link payload message [("failure_reason", .text reason.code)] none

/-- The outcome of a lender that does not answer in time. -/
def timedOut : Outcome := .failed .timeout .lenderTimeout true (.text "Lender did not respond.")

def lenderFailed (retryable : Bool) (detail : String) : Outcome :=
  .failed .error .lenderError retryable (.text detail)

/-- The lender whose first attempt always runs out of time in simulation. -/
def slowLender : String := "timeout"

def forcesFailure (payload : Payload) : Except Misfit Bool := do
  let entries ← (payload.application.metadata.orElse (.map [])).namedEntries
  return (Value.getD "forceFailure" entries).isGiven

def submitSimulated (link : Link) (payload : Payload) : Script Outcome := do
  let id := payload.application.id.display
  let lender := link.lenderId.display
  if link.attempt = 0 ∧ link.lenderId.text? = some slowLender then
    noteFailure .warning link payload .lenderTimeout
      ("Simulated timeout for lender " ++ lender ++ " (attempt " ++ toString link.attempt ++ ")")
    return timedOut
  let forced ← if link.attempt = 0 then .ofMisfit (forcesFailure payload) else pure false
  if forced then
    noteFailure .warning link payload .lenderError ("Forced lender error for application " ++ id)
    return lenderFailed true "Forced lender error."
  notice .info link payload
    ("Application " ++ id ++ " accepted by lender " ++ lender ++ " (simulated)") [] none
  return .succeeded .accepted .null .null

def nonAscii? (words : String) : Option Misfit :=
  let cs := words.toList
  let start := (cs.takeWhile fun c => c.toNat < 128).length
  match cs.drop start with
  | [] => none
  | c :: rest =>
    let further := rest.takeWhile fun c => 128 ≤ c.toNat
    some (.notAscii c start (start + 1 + further.length))

/-- The identifier of an application as a header: an ASCII text. -/
def headerText (id : Value) : Except Misfit String :=
  match id.text? with
  | none => .error (.badHeader id.kindName)
  | some words =>
    match nonAscii? words with
    | none => .ok words
    | some misfit => .error misfit

/-- The address of a request, or the failure that a text without one stands for. -/
def targetOf (endpoint : String) : Except Fault String :=
  match Url.read endpoint with
  | .ok url => .ok url.target.text
  | .error problem => .error (.remote ⟨.other, "InvalidURL", problem.message, []⟩)

def request (link : Link) (endpoint : String) (payload : Payload) :
    Except Fault PartnerRequest := do
  let content ← payload.toDictionary.mapError Fault.misfit
  let attempt ← (Value.int link.attempt).printed.mapError Fault.misfit
  let url ← targetOf endpoint
  let body ← (content.toJson .refuse).mapError Fault.misfit
  let key ← (headerText payload.application.id).mapError Fault.misfit
  return ⟨url, body.write Json.compact, key, attempt, link.timeout⟩

def isSuccess (status : Int) : Bool := 200 ≤ status && status ≤ 299

def refused (link : Link) (payload : Payload) (status : Int) : Script Outcome := do
  let retryable := isRetryableStatus status
  notice .error link payload
    ("Lender " ++ link.lenderId.display ++ " returned HTTP " ++ toString status ++ " (retryable="
      ++ (Value.bool retryable).display ++ ")")
    [("failure_reason", .text FailureReason.lenderError.code), ("status_code", .int status)] none
  return lenderFailed retryable ("Lender responded with HTTP " ++ toString status ++ ".")

/-- The text of a fault, or its class when it has no text. -/
def faultText (fault : Fault) : String := if fault.text = "" then fault.className else fault.text

/-- The outcome of a request that could not be made or was not answered. -/
def unanswered (link : Link) (payload : Payload) (fault : Fault) : Script Outcome := do
  let lender := link.lenderId.display
  match fault with
  | .remote ⟨.timeout, _, _, _⟩ =>
    noteFailure .warning link payload .lenderTimeout
      ("Lender " ++ lender ++ " timed out: " ++ fault.text)
    return timedOut
  | .remote ⟨.transport, _, _, _⟩ =>
    noteFailure .error link payload .lenderError
      ("Transport error for lender " ++ lender ++ ": " ++ fault.text)
    return lenderFailed true (faultText fault)
  | _ =>
    notice .error link payload
      ("Could not submit application " ++ payload.application.id.display ++ " to lender " ++ lender)
      [("failure_reason", .text FailureReason.lenderError.code)]
      (some ⟨fault.className, fault.text⟩)
    return lenderFailed false (faultText fault)

def submitOver (link : Link) (endpoint : String) (payload : Payload) : Script Outcome := do
  let start ← Script.readClock
  let exchange : Script PartnerReply := do
    .askPartner (← .ofFault (request link endpoint payload))
  match ← exchange.attempt with
  | .error fault => unanswered link payload fault
  | .ok reply =>
    if !isSuccess reply.status then refused link payload reply.status
    else
      let duration := Script.duration start (← Script.readClock)
      notice .info link payload
        ("Application " ++ payload.application.id.display ++ " accepted by lender "
          ++ link.lenderId.display ++ " (HTTP " ++ toString reply.status ++ ", "
          ++ duration.amountText Script.durationFormat ++ " ms)")
        [("status_code", .int reply.status), ("duration_ms", .float duration)] none
      return .accepted (← .ofMisfit (referenceOf reply))

def submit (link : Link) (payload : Payload) : Script Outcome :=
  let endpoint := link.endpoint.getD ""
  if link.mode ≠ "http" then submitSimulated link payload
  else if endpoint = "" then do
    noteFailure .error link payload .lenderError
      ("No endpoint configured for lender " ++ link.lenderId.display ++ " in http mode")
    return lenderFailed false "Partner API endpoint is required."
  else submitOver link endpoint payload

end LoanDispatch.Partner
