import LoanDispatch.Proofs.Ledger.Raising
import LoanDispatch.Proofs.Partner.Exchange

/-!
The advice to retry.  One rule tells it from a status: whether a partner answers with the status, or
an error reply of the spreadsheet service has it, whichever request that answers and however the
client shows it.  What is wrong with a configuration or a layout is never worth another attempt.
-/

set_option autoImplicit false

namespace LoanDispatch

/-- The result is a failure for a reason, and it advises another attempt on a condition. -/
def FailsWith (reason : FailureReason) (condition : Prop) (result : Except Fault Outcome) : Prop :=
  ∃ outcome, result = .ok outcome ∧ outcome.success = false ∧ outcome.reason = some reason ∧
    (outcome.retryable = true ↔ condition)

variable {σ : Type} {around : Surroundings σ} {payload : Payload} {contexts : Log.Contexts}
  {world : World σ}

namespace Partner

theorem failsWith_of_status {link : Link} {endpoint : String} {sent : PartnerRequest}
    {reply : PartnerReply} (http : link.mode = "http") (given : link.endpoint = some endpoint)
    (filled : endpoint ≠ "") (made : request link endpoint payload = .ok sent)
    (answer : (around.partner sent world.state).1 = .ok reply)
    (failed : ¬ (200 ≤ reply.status ∧ reply.status ≤ 299)) :
    FailsWith .lenderError (TransientStatus reply.status)
      ((submit link payload).run around contexts world).1 := by
  obtain ⟨posts, exchange, -⟩ := submit_exchanges around payload http contexts world
  obtain rfl := exchange.posts_eq given filled made
  generalize ((submit link payload).run around contexts world).1 = ending at exchange ⊢
  cases exchange with
  | unanswered _ _ _ silent _ => cases answer.symm.trans silent
  | refused _ _ _ told _ advised =>
    cases answer.symm.trans told
    exact ⟨_, rfl, rfl, rfl, advised⟩
  | accepted _ _ _ told low high | overflowed _ _ _ told low high =>
    cases answer.symm.trans told
    exact absurd ⟨low, high⟩ failed

end Partner

namespace Ledger

open Spreadsheet

variable {registry : Registry} {config : SheetConfig} {fault : Fault}

theorem failsWith_outcomeOf {retryable : Bool} (told : fault.isRetryable = .ok retryable) :
    FailsWith .sheetError (retryable = true) (outcomeOf (.error fault)) := by
  simp only [outcomeOf, told]
  exact ⟨_, rfl, rfl, rfl, Iff.rfl⟩

/-- A submission that hears a fault advises what the client's image of it does. -/
theorem failsWith_of_hears {image : Fault → Fault} {client : Client} {status : Int}
    (passes : client.PassesOn image)
    (told : (image fault).isRetryable = .ok (isRetryableStatus status))
    (heard : (submit (.ok client) registry config payload).Hears around fault contexts world) :
    FailsWith .sheetError (TransientStatus status)
      ((submit (.ok client) registry config payload).run around contexts world).1 := by
  rw [submit_of_hears passes heard, ← isRetryableStatus_iff]
  exact failsWith_outcomeOf told

theorem failsWith_of_place {access : Except Fault Client} {retryable : Bool}
    (failed : ((place access registry config payload).run around contexts
      (world.tick.addNote (opening config payload) contexts)).1 = .error fault)
    (told : fault.isRetryable = .ok retryable) :
    FailsWith .sheetError (retryable = true)
      ((submit access registry config payload).run around contexts world).1 := by
  rw [submit_result, failed]
  exact failsWith_outcomeOf told

/-- Every way in which a status other than a success reaches a submission leads to the same advice,
and problems with the configuration or the layout of a ledger are final. -/
theorem retry_advice_agrees (around : Surroundings σ) (registry : Registry) (config : SheetConfig)
    (payload : Payload) (contexts : Log.Contexts) (world : World σ) (status : Int)
    (failed : ¬ (200 ≤ status ∧ status ≤ 299)) :
    (∀ link endpoint sent body room, link.mode = "http" → link.endpoint = some endpoint →
      endpoint ≠ "" → Partner.request link endpoint payload = .ok sent →
      (around.partner sent world.state).1 = .ok ⟨status, body, room⟩ →
      FailsWith .lenderError (TransientStatus status)
        ((Partner.submit link payload).run around contexts world).1) ∧
    (∀ fault client, fault.IsReply status → client = Client.plain ∨ client = .interface →
      (submit (.ok client) registry config payload).Hears around fault contexts world →
      FailsWith .sheetError (TransientStatus status)
        ((submit (.ok client) registry config payload).run around contexts world).1) ∧
    ∀ access fault,
      ((place access registry config payload).run around contexts
        (world.tick.addNote (opening config payload) contexts)).1 = .error fault →
      (∃ problem, fault = .config problem) ∨ (∃ problem, fault = .layout problem) →
      FailsWith .sheetError False
        ((submit access registry config payload).run around contexts world).1 := by
  refine ⟨?_, ?_, ?_⟩
  · intro link endpoint sent body room http given filled made answer
    exact Partner.failsWith_of_status http given filled made answer failed
  · intro fault client reply known heard
    rcases known with rfl | rfl
    · exact failsWith_of_hears Client.passesOn_plain reply.isRetryable heard
    · exact failsWith_of_hears Client.passesOn_interface (Client.isRetryable_raisedFault reply) heard
  · intro access fault ended own
    have final : fault.isRetryable = .ok false := by
      rcases own with ⟨problem, rfl⟩ | ⟨problem, rfl⟩
      · exact Fault.isRetryable_of_config problem
      · exact Fault.isRetryable_of_layout problem
    have fails := failsWith_of_place ended final
    rwa [Bool.false_eq_true] at fails

/-- What the service answers when it is overloaded. -/
def overload : Fault := RemoteFailure.ofReply 503 "try later" []

/-- The partner is overloaded, and so is the service once the headers are to be read. -/
def overloadedSurroundings (documents : Bool) : Surroundings Workbook where
  sheet := (⟨documents, [("values", overload)], none, []⟩ : Service).answer
  partner _ book := (.ok ⟨503, [], 960⟩, book)

theorem overload_advises_retry :
    let order := smallOrder "A-1"
    let world := World.fresh (smallBook []) 0
    FailsWith .lenderError (TransientStatus 503)
      ((Partner.submit Partner.smallLink Partner.smallPayload).run (overloadedSurroundings false) []
        world).1 ∧
    FailsWith .sheetError (TransientStatus 503)
      ((submit (.ok .plain) smallRegistry order.config order.payload).run
        (overloadedSurroundings false) [] world).1 ∧
    FailsWith .sheetError (TransientStatus 503)
      ((submit (.ok .interface) smallRegistry order.config order.payload).run
        (overloadedSurroundings true) [] world).1 ∧
    FailsWith .sheetError False
      ((submit (.ok .plain) .builtin order.config order.payload).run
        (overloadedSurroundings false) [] world).1 := by
  have reply : overload.IsReply 503 :=
    (Fault.isReply_ofReply 503 "try later").resolve_left fun ⟨_, same⟩ => nomatch same
  have advice (documents : Bool) (registry : Registry) (payload : Payload) :=
    retry_advice_agrees (overloadedSurroundings documents) registry (smallOrder "A-1").config
      payload [] (World.fresh (smallBook []) 0) 503 (by decide)
  obtain ⟨sent, made⟩ : ∃ sent, Partner.request Partner.smallLink "https://acme.example/loans"
      Partner.smallPayload = .ok sent := ⟨_, rfl⟩
  have plain : (submit (.ok .plain) smallRegistry (smallOrder "A-1").config
      (smallOrder "A-1").payload).Hears (overloadedSurroundings false) overload []
      (World.fresh (smallBook []) 0) := .inr (.inl rfl)
  have interface : (submit (.ok .interface) smallRegistry (smallOrder "A-1").config
      (smallOrder "A-1").payload).Hears (overloadedSurroundings true) overload []
      (World.fresh (smallBook []) 0) := .inr (.inl rfl)
  refine ⟨(advice false smallRegistry Partner.smallPayload).1 Partner.smallLink _ sent [] 960 rfl rfl
    (by decide) made rfl, ?_, ?_, ?_⟩
  · exact (advice false smallRegistry _).2.1 overload .plain reply (.inl rfl) plain
  · exact (advice true smallRegistry _).2.1 overload .interface reply (.inr rfl) interface
  · exact (advice false .builtin _).2.2 (.ok .plain) (.config (.versionUnknown (.text "small"))) rfl
      (.inl ⟨_, rfl⟩)

end Ledger

end LoanDispatch
