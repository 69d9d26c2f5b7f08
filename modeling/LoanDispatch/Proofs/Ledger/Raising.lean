import LoanDispatch.Proofs.Ledger.Failure
import LoanDispatch.Proofs.Script.Raising

/-!
Submissions whose requests fail.  A client passes on the faults that its requests are answered with,
plainly or as service failures.  A submission ends at the first one, and its outcome is the one that
the fault comes to, whichever request it was.
-/

set_option autoImplicit false

namespace LoanDispatch

namespace Spreadsheet.Client

/-- The calls of a client pass on the faults that their requests are answered with. -/
structure PassesOn (image : Fault → Fault) (client : Client) : Prop where
  titles (spreadsheetId : String) : (client.titles spreadsheetId).PassesOn image
  values (spreadsheetId range : String) : (client.values spreadsheetId range).PassesOn image
  append (spreadsheetId range : String) (row : List Value) :
    (client.append spreadsheetId range row).PassesOn image

theorem passesOn_plain : plain.PassesOn id where
  titles _ := Script.passesOn_askSheet _
  values _ _ := Script.passesOn_askSheet _
  append _ _ _ := Script.passesOn_askSheet _

theorem passesOn_askDocument (request : SheetRequest) :
    (askDocument request).PassesOn raisedFault :=
  ⟨fun _ => rfl, fun _ => trivial⟩

theorem passesOn_interface : interface.PassesOn raisedFault where
  titles _ := (passesOn_askDocument _).bind fun _ => Script.passesOn_ofMisfit _
  values _ _ := (passesOn_askDocument _).bind fun _ => Script.passesOn_ofMisfit _
  append _ _ _ :=
    (passesOn_askDocument _).bind fun _ => (Script.passesOn_ofMisfit _).bind fun _ => trivial

/-- An error reply keeps its advice when it becomes a service failure. -/
theorem isRetryable_raisedFault {status : Int} {fault : Fault} (reply : fault.IsReply status) :
    (raisedFault fault).isRetryable = .ok (isRetryableStatus status) := by
  have told : replyStatus fault = .ok (.int status) := by
    rw [replyStatus, reply.property_eq.2]
    rfl
  obtain ⟨reason, details, name, message, further, rfl, _⟩ := reply
  refine Fault.isRetryable_of_first ?_
  rw [raisedFault, serviceFault, told]
  rfl

end Spreadsheet.Client

namespace Ledger

open Spreadsheet

variable {σ : Type} {around : Surroundings σ} {image : Fault → Fault} {client : Client}
  {registry : Registry} {config : SheetConfig} {payload : Payload} {fault : Fault}
  {contexts : Log.Contexts} {world : World σ}

theorem passesOn_appendRow (passes : client.PassesOn image) (map : ColumnMap) (title : Value)
    (headers : List String) :
    (appendRow client map config payload title headers).PassesOn image := by
  refine (Script.passesOn_ofMisfit _).bind fun row => ?_
  refine (Script.passesOn_ofMisfit _).bind fun last => ?_
  refine (Script.passesOn_ofMisfit _).bind fun range => ?_
  refine (passes.append _ _ _).bind fun reported => ?_
  exact (Script.passesOn_ofMisfit _).bind fun reference => trivial

theorem passesOn_place (passes : client.PassesOn image) :
    (place (.ok client) registry config payload).PassesOn image := by
  rw [place, Script.ofFault_ok_bind]
  refine (Script.passesOn_ofFault _).bind fun map => ?_
  refine (passes.titles _).bind fun titles => ?_
  refine (Script.passesOn_ofFault _).bind fun title => ?_
  refine (Script.passesOn_ofMisfit _).bind fun headerRange => ?_
  refine (passes.values _ _).bind fun rows => ?_
  refine (Script.passesOn_ofMisfit _).bind fun headers => ?_
  refine (Script.passesOn_ofFault _).bind fun identifier => ?_
  refine (Script.passesOn_ofMisfit _).bind fun columnRange => ?_
  refine (passes.values _ _).bind fun cells => ?_
  refine (Script.passesOn_ofMisfit _).bind fun existing => ?_
  cases existing with
  | some row => trivial
  | none => exact passesOn_appendRow passes map title headers

/-- A submission ends with the outcome that its placement comes to. -/
theorem submit_result (access : Except Fault Client) :
    ((submit access registry config payload).run around contexts world).1
      = outcomeOf ((place access registry config payload).run around contexts
          (world.tick.addNote (opening config payload) contexts)).1 := by
  rw [submit_eq]
  exact (congrArg Prod.fst (Script.run_andThen ..)).trans (run_conclude ..)

/-- A submission that hears a fault ends with the outcome that the client's image of it comes to. -/
theorem submit_of_hears (passes : client.PassesOn image)
    (heard : (submit (.ok client) registry config payload).Hears around fault contexts world) :
    ((submit (.ok client) registry config payload).run around contexts world).1
      = outcomeOf (.error (image fault)) := by
  rw [submit_eq] at heard
  rcases Script.hears_andThen.mp heard with placing | concluding
  · rw [submit_result]
    exact congrArg outcomeOf ((passesOn_place passes).run placing)
  · exact absurd concluding (conclude_quiet _ _).not_hears

end Ledger

end LoanDispatch
