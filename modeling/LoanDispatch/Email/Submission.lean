import LoanDispatch.Email.Message
import LoanDispatch.Script.Basic
import LoanDispatch.Script.Outcome

/-!
Submitting an application by email.  The message is handed over to the mail relay, which takes every
message.
-/

set_option autoImplicit false

namespace LoanDispatch.Email

structure Mailbox where
  toAddress : String
  fromAddress : String
  deriving DecidableEq

def logger : String := "backend.lender_delivery.submissions.channels.email_channel"

def reference : String := "email_stub"

def submit (mailbox : Mailbox) (payload : Payload) : Script Outcome := do
  let subject := subject payload
  let body ← .ofMisfit (body payload)
  let id := payload.application.id
  .write
    { level := .info
      logger := logger
      message :=
        "[EMAIL] Application " ++ id.display ++ " → " ++ mailbox.toAddress ++ " (from "
          ++ mailbox.fromAddress ++ "): Subject='" ++ subject ++ "' ("
          ++ toString body.length ++ " chars)"
      fields := [("application_id", id), ("channel", .text Channel.email.code)]
      exception := none }
  let detail := "accepted for delivery to " ++ mailbox.toAddress
  return .succeeded .accepted (.text detail) (.text reference)

end LoanDispatch.Email
