import LoanDispatch.Proofs.Delivery.Readiness
import LoanDispatch.Proofs.Payload.RoundTrip

/-!
Repeated deliveries to a simulated partner.  A caller repeats a delivery, counting its attempts, as
long as the outcome advises it.  In simulation only the first attempt can fail, so that the second
delivery is the last one at the latest, and nobody is asked in any of them.
-/

set_option autoImplicit false

namespace LoanDispatch

namespace Partner

/-- The metadata of an application ask for a failure. -/
def AsksForFailure (payload : Payload) : Prop :=
  ∃ entries, payload.application.metadata = .map entries ∧
    (Value.getD "forceFailure" entries).isGiven = true

/-- The outcome in simulation for a lender; `forced` says whether a failure is asked for. -/
def simulatedOutcome (lenderId : String) (attempt : Int) (forced : Bool) : Outcome :=
  if attempt = 0 ∧ lenderId = slowLender then timedOut
  else if attempt = 0 ∧ forced = true then lenderFailed true "Forced lender error."
  else .succeeded .accepted .null .null

theorem simulatedOutcome_later {attempt : Int} (later : attempt ≠ 0) (lenderId : String)
    (forced : Bool) :
    simulatedOutcome lenderId attempt forced = .succeeded .accepted .null .null := by
  simp [simulatedOutcome, later]

theorem Link.mode_make (settings : Settings) (lenderId : Value) (attempt : Int)
    (endpoint : Option String) (timeout : Value) :
    (Link.make settings lenderId attempt endpoint none timeout).mode
      = Text.lower (Text.trim settings.partnerMode) := by
  simp only [Link.make, Option.getD_none, if_pos]

theorem submit_simulated {link : Link} (simulated : link.mode ≠ "http") (payload : Payload) :
    submit link payload = submitSimulated link payload := by
  rw [submit, if_pos simulated]

theorem simulatedOutcome_failed_iff {lenderId : String} {forced : Bool} :
    (simulatedOutcome lenderId 0 forced).success = false ↔
      lenderId = slowLender ∨ forced = true := by
  unfold simulatedOutcome
  by_cases slow : lenderId = slowLender
  · rw [if_pos ⟨rfl, slow⟩]
    exact ⟨fun _ => .inl slow, fun _ => rfl⟩
  · rw [if_neg fun both => slow both.2]
    cases forced with
    | true => exact ⟨fun _ => .inr rfl, fun _ => rfl⟩
    | false => exact ⟨nofun, fun either => (either.resolve_left slow).symm⟩

theorem simulatedOutcome_advises {lenderId : String} {attempt : Int} {forced : Bool}
    (failed : (simulatedOutcome lenderId attempt forced).success = false) :
    (simulatedOutcome lenderId attempt forced).retryable = true := by
  unfold simulatedOutcome at failed ⊢
  split
  · rfl
  · next quick =>
    rw [if_neg quick] at failed
    split
    · rfl
    · next free =>
      rw [if_neg free] at failed
      cases failed

theorem reason_simulatedOutcome_slow (forced : Bool) :
    (simulatedOutcome slowLender 0 forced).reason = some .lenderTimeout := by
  rw [simulatedOutcome, if_pos ⟨rfl, rfl⟩]
  rfl

theorem reason_simulatedOutcome_forced {lenderId : String} (quick : lenderId ≠ slowLender) :
    (simulatedOutcome lenderId 0 true).reason = some .lenderError := by
  rw [simulatedOutcome, if_neg fun both => quick both.2, if_pos ⟨rfl, rfl⟩]
  rfl

theorem forcesFailure_of_map {payload : Payload} {entries : List (String × Value)}
    (mapped : payload.application.metadata = .map entries) :
    forcesFailure payload = .ok (Value.getD "forceFailure" entries).isGiven := by
  have same : (Value.map entries).orElse (.map []) = .map entries := by
    cases entries with
    | nil => rfl
    | cons entry rest => rfl
  rw [forcesFailure, mapped, same]
  rfl

theorem submitSimulated_quiet {link : Link} {payload : Payload} {lenderId : String} {forced : Bool}
    (lender : link.lenderId = .text lenderId)
    (told : link.attempt = 0 → forcesFailure payload = .ok forced) :
    (submitSimulated link payload).Quiet
      (· = .ok (simulatedOutcome lenderId link.attempt forced)) := by
  unfold submitSimulated
  simp only [lender, Value.text?, Option.some.injEq]
  by_cases first : link.attempt = 0
  · by_cases slow : lenderId = slowLender
    · rw [if_pos ⟨first, slow⟩]
      simp only [simulatedOutcome, if_pos (And.intro first slow)]
      rfl
    · rw [if_neg (fun both => slow both.2), if_pos first, told first]
      cases forced with
      | true =>
        simp only [simulatedOutcome, first, slow]
        rfl
      | false =>
        simp only [simulatedOutcome, first, slow]
        rfl
  · rw [if_neg (fun both => first both.1), if_neg first, simulatedOutcome_later first]
    rfl

end Partner

theorem Route.ofProfile_api {profile : Profile} (api : profile.method = .channel .api)
    (settings : Settings) (attempt : Int) :
    ∃ link, Route.ofProfile settings profile attempt = .ok (.partner link) ∧
      link.lenderId = profile.lenderId ∧ link.attempt = attempt ∧
      link.mode = Text.lower (Text.trim settings.partnerMode) := by
  refine ⟨_, ?_, rfl, rfl, Partner.Link.mode_make settings profile.lenderId attempt
    (Route.endpointOf profile.config) .null⟩
  rw [Route.ofProfile, api, Route.channelOf_channel]
  rfl

namespace Delivery

variable {σ : Type} {around : Surroundings σ} {deployment : Deployment} {source : LenderSource}
  {rows : String → Option LenderRow} {lenderId : String} {profile : Profile} {payload : Payload}
  {number : Int} {contexts : Log.Contexts} {world : World σ}

/-- The deployment does not submit over the network. -/
def Simulates (deployment : Deployment) : Prop :=
  Text.lower (Text.trim deployment.settings.partnerMode) ≠ "http"

theorem deliver_simulated (holds : source.Holds rows)
    (found : Profile.ofRows rows lenderId = .ok profile) (api : profile.method = .channel .api)
    (simulates : Simulates deployment) {forced : Bool}
    (told : number = 0 → Partner.forcesFailure payload = .ok forced) (around : Surroundings σ)
    (contexts : Log.Contexts) (world : World σ) :
    let ended := (deliver deployment source lenderId payload number).run around contexts world
    ended.1 = .ok (Partner.simulatedOutcome lenderId number forced) ∧ ended.2.2.Alike world := by
  intro ended
  obtain ⟨row, held, made⟩ := Profile.ofRows_eq_ok found
  obtain ⟨lender, _, _, _⟩ := Profile.ofRow_eq_ok made
  obtain ⟨link, routed, bound, rfl, mode⟩ :=
    Route.ofProfile_api api deployment.settings number
  have quiet : (Partner.submit link payload).Quiet
      (· = .ok (Partner.simulatedOutcome lenderId link.attempt forced)) := by
    rw [Partner.submit_simulated (mode.trans_ne simulates)]
    exact Partner.submitSimulated_quiet (bound.trans lender) told
  obtain ⟨inner, opened, alike, same, left⟩ :=
    deliver_carries holds held made routed contexts world
  obtain ⟨submitted, still⟩ := quiet.run around inner opened
  exact ⟨same.trans submitted, (left.trans still).trans alike⟩

/-- A caller delivers with one attempt number after the other until an outcome is a success or does
not advise to retry.  The list holds the outcomes, and the last world is the one that is left. -/
inductive Driven (around : Surroundings σ) (deployment : Deployment) (source : LenderSource)
    (lenderId : String) (payload : Payload) :
    Int → Log.Contexts → World σ → List Outcome → World σ → Prop where
  | stop {number contexts world outcome after reached} :
      (deliver deployment source lenderId payload number).run around contexts world
        = (.ok outcome, after, reached) →
      outcome.success = true ∨ outcome.retryable = false →
      Driven around deployment source lenderId payload number contexts world [outcome] reached
  | again {number contexts world outcome after between rest reached} :
      (deliver deployment source lenderId payload number).run around contexts world
        = (.ok outcome, after, between) →
      outcome.success = false → outcome.retryable = true →
      Driven around deployment source lenderId payload (number + 1) after between rest reached →
      Driven around deployment source lenderId payload number contexts world (outcome :: rest)
        reached

theorem Driven.unique {outcomes others : List Outcome} {reached elsewhere : World σ}
    (one : Driven around deployment source lenderId payload number contexts world outcomes reached)
    (two : Driven around deployment source lenderId payload number contexts world others
      elsewhere) :
    others = outcomes ∧ elsewhere = reached := by
  induction one generalizing others elsewhere with
  | stop ran ended =>
    cases two with
    | stop again _ =>
      cases ran.symm.trans again
      exact ⟨rfl, rfl⟩
    -- The first delivery is the same, so both stop after it or neither does.
    | again once failed advised _ =>
      cases ran.symm.trans once
      rcases ended with succeeded | final
      · cases failed.symm.trans succeeded
      · cases advised.symm.trans final
  | again ran failed advised _ ih =>
    cases two with
    | stop once ended =>
      cases ran.symm.trans once
      rcases ended with succeeded | final
      · cases failed.symm.trans succeeded
      · cases advised.symm.trans final
    | again once _ _ rest =>
      cases ran.symm.trans once
      obtain ⟨same, there⟩ := ih rest
      exact ⟨congrArg _ same, there⟩

/-- What every delivery leaves alone, repeated deliveries leave alone. -/
theorem Driven.alike {outcomes : List Outcome} {reached : World σ}
    (driven : Driven around deployment source lenderId payload number contexts world outcomes
      reached)
    (each : ∀ number contexts world, World.Alike
      ((deliver deployment source lenderId payload number).run around contexts world).2.2 world) :
    reached.Alike world := by
  induction driven with
  | @stop number contexts world _ _ _ ran _ =>
    have alike := each number contexts world
    rw [ran] at alike
    exact alike
  | @again number contexts world _ _ _ _ _ ran _ _ _ ih =>
    have alike := each number contexts world
    rw [ran] at alike
    exact ih.trans alike

/-- When only the first attempt can fail, and its failure advises to retry, the second delivery is
the last one at the latest. -/
theorem driven_of_first {first second : Outcome}
    (advises : first.success = false → first.retryable = true) (succeeds : second.success = true)
    (initial : ((deliver deployment source lenderId payload 0).run around contexts world).1
      = .ok first)
    (later : ∀ contexts world,
      ((deliver deployment source lenderId payload 1).run around contexts world).1 = .ok second) :
    ∃ rest last reached,
      Driven around deployment source lenderId payload 0 contexts world (first :: rest) reached ∧
      (first :: rest).length ≤ 2 ∧ (first :: rest).getLast? = some last ∧ last.success = true := by
  cases ended : first.success with
  | true =>
    exact ⟨[], first, _, .stop (Prod.ext initial rfl) (.inl ended), Nat.le_succ 1, rfl, ended⟩
  | false =>
    obtain ⟨after, between, ran⟩ : ∃ after between,
        (deliver deployment source lenderId payload 0).run around contexts world
          = (.ok first, after, between) := ⟨_, _, Prod.ext initial rfl⟩
    have repeated : Driven around deployment source lenderId payload (0 + 1) after between [second]
        ((deliver deployment source lenderId payload 1).run around after between).2.2 :=
      .stop (Prod.ext (later after between) rfl) (.inl succeeds)
    exact ⟨[second], second, _, .again ran ended (advises ended) repeated, Nat.le_refl 2, rfl,
      succeeds⟩

/-- Repeated deliveries to a simulated partner end in a success, with the second one at the latest.
The first one fails for the slow lender, or else when the metadata ask for it; every later attempt is
accepted, and nobody is ever asked. -/
theorem retries_converge (holds : source.Holds rows)
    (found : Profile.ofRows rows lenderId = .ok profile) (api : profile.method = .channel .api)
    (simulates : Simulates deployment) {now : Calendar.DateTime} {value : Value}
    (read : Payload.ofValue now value = .ok payload) (around : Surroundings σ)
    (contexts : Log.Contexts) (world : World σ) :
    (∃ first rest last reached,
      Driven around deployment source lenderId payload 0 contexts world (first :: rest) reached ∧
      (∀ outcomes elsewhere,
        Driven around deployment source lenderId payload 0 contexts world outcomes elsewhere →
          outcomes = first :: rest) ∧
      (first :: rest).length ≤ 2 ∧
      (first :: rest).getLast? = some last ∧ last.success = true ∧
      (first.success = false ↔ lenderId = "timeout" ∨ Partner.AsksForFailure payload) ∧
      (lenderId = "timeout" → first.reason = some .lenderTimeout) ∧
      (lenderId ≠ "timeout" → Partner.AsksForFailure payload →
        first.reason = some .lenderError) ∧
      reached.Alike world) ∧
    ∀ (number : Int) (other : Payload) (contexts : Log.Contexts) (world : World σ), number ≠ 0 →
      let ended := (deliver deployment source lenderId other number).run around contexts world
      ended.1 = .ok (.succeeded .accepted .null .null) ∧ ended.2.2.Alike world := by
  obtain ⟨entries, mapped⟩ := (Payload.settled_of_ofValue read).application.metadata
  have told := Partner.forcesFailure_of_map mapped
  have asks : Partner.AsksForFailure payload ↔
      (Value.getD "forceFailure" entries).isGiven = true := by
    constructor
    · intro asked
      obtain ⟨others, same, given⟩ := asked
      cases mapped.symm.trans same
      exact given
    · exact fun given => ⟨entries, mapped, given⟩
  have each (number : Int) (contexts : Log.Contexts) (world : World σ) :=
    have always : number = 0 → Partner.forcesFailure payload = .ok _ := fun _ => told
    deliver_simulated holds found api simulates always around contexts world
  have later (number : Int) (other : Payload) (contexts : Log.Contexts) (world : World σ)
      (repeated : number ≠ 0) :
      let ended := (deliver deployment source lenderId other number).run around contexts world
      ended.1 = .ok (.succeeded .accepted .null .null) ∧ ended.2.2.Alike world := by
    have never : number = 0 → Partner.forcesFailure other = .ok false :=
      fun zero => absurd zero repeated
    have ended := deliver_simulated holds found api simulates never around contexts world
    rw [Partner.simulatedOutcome_later repeated] at ended
    exact ended
  obtain ⟨rest, last, reached, driven, short, final, succeeded⟩ :=
    driven_of_first Partner.simulatedOutcome_advises rfl (each 0 contexts world).1
      fun contexts world => (later 1 payload contexts world (by decide)).1
  refine ⟨⟨_, rest, last, reached, driven, fun outcomes elsewhere other => (driven.unique other).1,
    short, final, succeeded, ?_, ?_, ?_, ?_⟩, later⟩
  · rw [asks]
    exact Partner.simulatedOutcome_failed_iff
  · rintro rfl
    exact Partner.reason_simulatedOutcome_slow _
  · intro quick asked
    rw [asks.mp asked]
    exact Partner.reason_simulatedOutcome_forced quick
  · exact driven.alike fun number contexts world => (each number contexts world).2

def slowRow : LenderRow := ⟨.text " API ", .null, .null, .map []⟩

def slowStore : Store.Memory := Store.Memory.empty.put Partner.slowLender slowRow

def forcedMessage : Value :=
  .map [("application", .map
    [("id", .text "A-1"), ("metadata", .list [.list [.text "forceFailure", .text "yes"]])])]

def forcedPayload : Payload where
  application :=
    ⟨.text "A-1", .text "", .null, .map [("forceFailure", .text "yes")], .text "", .null, .null,
      .null⟩
  documents := []
  submittedAt := .dateTime (Payload.smallMoment .utc)

/-- The slow lender runs out of time before it can fail as asked for, and then accepts. -/
theorem slow_lender_converges :
    Payload.ofValue (Payload.smallMoment .utc) forcedMessage = .ok forcedPayload ∧
      Partner.AsksForFailure forcedPayload ∧
      ∃ first last reached,
        Driven .offline (smallDeployment .plain) slowStore.source "timeout" forcedPayload 0 []
          (World.fresh () 0) [first, last] reached ∧
        first.reason = some .lenderTimeout ∧ last.success = true ∧ reached.posts = [] := by
  have read : Payload.ofValue (Payload.smallMoment .utc) forcedMessage = .ok forcedPayload := rfl
  have asked : Partner.AsksForFailure forcedPayload := ⟨_, rfl, rfl⟩
  have simulates : Simulates (smallDeployment .plain) := by
    unfold Simulates
    decide +kernel
  have found : Profile.ofRows slowStore.get? "timeout"
      = .ok ⟨.text "timeout", .text "", .channel .api, .null, .map []⟩ := rfl
  obtain ⟨first, rest, last, reached, driven, _, short, final, succeeded, failed, slow, _, alike⟩ :=
    (retries_converge slowStore.source_holds found rfl simulates read .offline []
      (World.fresh () 0)).1
  have fails := failed.mpr (.inl rfl)
  refine ⟨read, asked, first, last, reached, ?_, slow rfl, succeeded, alike.posts⟩
  match rest with
  | [] =>
    cases final
    cases fails.symm.trans succeeded
  | [second] =>
    cases final
    exact driven
  | _ :: _ :: _ => exact absurd short (by simp)

end Delivery

end LoanDispatch
