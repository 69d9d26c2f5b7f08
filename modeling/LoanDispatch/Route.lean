import LoanDispatch.Email.Submission
import LoanDispatch.Ledger.Submission
import LoanDispatch.Partner.Submission
import LoanDispatch.Profile.Basic
import LoanDispatch.Spreadsheet.Credentials

/-!
Routes.  A route is the channel of a profile together with what the channel is bound to.  Finding
the route can fail; a submission over it reports every failure as an outcome.
-/

set_option autoImplicit false

namespace LoanDispatch

structure Deployment where
  settings : Settings
  columnMaps : Registry
  /-- The client for sheets; without one a client is made from the credentials in the settings. -/
  client : Option Spreadsheet.Client
  isKey : String → Bool

def Deployment.sheetAccess (deployment : Deployment) : Except Fault Spreadsheet.Client :=
  match deployment.client with
  | some client => .ok client
  | none =>
    (Spreadsheet.Credentials.ofSettings deployment.isKey deployment.settings).map fun _ =>
      .interface

inductive Route where
  | email (mailbox : Email.Mailbox)
  | partner (link : Partner.Link)
  | sheet (config : Ledger.SheetConfig)

namespace Route

def logger : String := "backend.lender_delivery.submissions.router"

def channel : Route → Channel
  | .email _ => .email
  | .partner _ => .api
  | .sheet _ => .googleSheet

def name : Route → String
  | .email _ => "EmailSubmissionChannel"
  | .partner _ => "PartnerApiSubmissionChannel"
  | .sheet _ => "SpreadsheetLedgerChannel"

def channelOf (method : Value) : Except Fault Channel :=
  match method.text?.bind Channel.ofCode? with
  | some channel => .ok channel
  | none => .error (.unsupportedMethod method)

def endpointOf (config : Value) : Option String :=
  match config with
  | .map entries =>
    let endpoint := Profile.trimmedEntry "endpoint" entries
    if endpoint = "" then none else some endpoint
  | _ => none

def addressOf (profile : Profile) : Except Fault String :=
  if !profile.email.isGiven then .error (.config (.emailMissing profile.lenderId))
  else
    match profile.email.text? with
    | none => .error (.misfit (.noAttribute profile.email.kindName "strip"))
    | some words =>
      let address := Text.trim words
      if address = "" then .error (.config (.emailMissing profile.lenderId)) else .ok address

def ofProfile (settings : Settings) (profile : Profile) (attempt : Int) : Except Fault Route := do
  match ← channelOf profile.method with
  | .googleSheet => return .sheet (← (Profile.sheetConfig profile.config).mapError .config)
  | .email => return .email ⟨← addressOf profile, settings.fromAddress⟩
  | .api =>
    return .partner
      (.make settings profile.lenderId attempt (endpointOf profile.config) none .null)

def find (settings : Settings) (profile : Profile) (payload : Payload) (attempt : Int) :
    Script Route := do
  let route ← .ofFault (ofProfile settings profile attempt)
  let id := payload.application.id
  .write ⟨.debug, logger,
    "[ROUTER] Routed application " ++ id.display ++ " for lender " ++ profile.lenderId.display
      ++ " → " ++ route.name,
    [("application_id", id), ("lender_id", profile.lenderId)], none⟩
  return route

def dispatch (deployment : Deployment) (payload : Payload) : Route → Script Outcome
  | .email mailbox => Email.submit mailbox payload
  | .partner link => Partner.submit link payload
  | .sheet config => Ledger.submit deployment.sheetAccess deployment.columnMaps config payload

/-- Submits a payload for a profile, in the log context of the attempt. -/
def submit (deployment : Deployment) (profile : Profile) (payload : Payload) (attempt : Int)
    (route : Route) : Script Outcome :=
  Script.within
    [("application_id", payload.application.id), ("lender_id", profile.lenderId),
     ("channel", .text route.channel.code), ("attempt", .int attempt)]
    (route.dispatch deployment payload)

end Route

end LoanDispatch
