import LoanDispatch.Fault.Report

/-!
Everything that can go wrong in a delivery.  A fault is a cause: a missing lender, a configuration
or layout problem, a failed service, a value that does not fit, or a failure that a client or
transport raised.  Raised failures may carry further properties, which come before their own.
-/

set_option autoImplicit false

namespace LoanDispatch

structure ServiceFailure where
  service : Value
  message : Value
  status : Value
  extra : List (String × Value)
  properties : List (String × Value)

/-- The classes of failures that a client or transport raises. -/
inductive RemoteClass where
  | timeout
  | transport
  /-- The spreadsheet service answered with an error status, a reason and error details. -/
  | apiReply (status : Int) (reason : String) (details : Value)
  | other

structure RemoteFailure where
  failureClass : RemoteClass
  name : String
  message : String
  properties : List (String × Value)

inductive Fault where
  | lenderNotFound (lenderId : Value)
  | config (problem : ConfigProblem)
  | unsupportedMethod (method : Value)
  | layout (problem : LayoutProblem)
  | service (failure : ServiceFailure)
  | misfit (cause : Misfit)
  | remote (failure : RemoteFailure)

namespace Fault

def report? : Fault → Option Report
  | .lenderNotFound lenderId =>
    some (.make .lenderNotFound "Lender not found." [("lender_id", lenderId)])
  | .config problem => some (.make .config problem.message problem.details)
  | .unsupportedMethod method =>
    some (.make .unsupportedMethod "Unsupported submission method."
      [("method", .text method.display)])
  | .layout problem => some (.make .layout problem.message problem.details)
  | .service failure =>
    let details :=
      Entries.merge [("service", failure.service), ("status_code", failure.status)] failure.extra
    some
      { Report.make .service (Report.serviceMessage failure.service failure.message) details with
        status := some failure.status }
  | .misfit _ | .remote _ => none

def className (fault : Fault) : String :=
  match fault with
  | .misfit cause => cause.className
  | .remote failure => failure.name
  | _ => ((fault.report?.map Report.kind).getD .general).name

end Fault

/-- The text of a failed service reply: the error details are shown when there are any. -/
def RemoteFailure.replyText (status : Int) (reason : String) (details : Value) : String :=
  if details.isGiven then
    "<HttpError " ++ toString status ++ " when requesting None returned \"" ++ reason
      ++ "\". Details: \"" ++ details.display ++ "\">"
  else "<HttpError " ++ toString status ++ " \"" ++ reason ++ "\">"

namespace Fault

def text (fault : Fault) : String :=
  match fault with
  | .misfit cause => cause.text
  | .remote failure =>
    match failure.failureClass with
    | .apiReply status reason details => RemoteFailure.replyText status reason details
    | _ => failure.message
  | _ => ((fault.report?.map Report.message).getD .null).display

/-- The properties of a raised failure that come before its own. -/
def properties : Fault → List (String × Value)
  | .service failure => failure.properties
  | .remote failure => failure.properties
  | _ => []

def ownProperties (fault : Fault) : List (String × Value) :=
  match fault with
  | .remote failure =>
    match failure.failureClass with
    | .apiReply status reason _ =>
      let reply := (Entries.lookup "resp" failure.properties).getD (.map [("status", .int status)])
      [("status_code", Value.getD "status" (reply.entries?.getD [])), ("resp", reply),
       ("reason", .text reason)]
    | _ => []
  | _ =>
    match fault.report? with
    | some report =>
      [("message", report.message), ("error_code", report.code), ("details", report.details)]
        ++ (report.status.map fun status => ("status_code", status)).toList
    | none => []

/-- A property of a fault, or null when it has no such property. -/
def property (name : String) (fault : Fault) : Value :=
  Value.getD name (fault.properties ++ fault.ownProperties)

end Fault

end LoanDispatch
