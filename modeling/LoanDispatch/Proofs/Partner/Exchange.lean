import LoanDispatch.Proofs.Fault.Status
import LoanDispatch.Proofs.Json.Encoding
import LoanDispatch.Proofs.Partner.Reports
import LoanDispatch.Proofs.Payload.Typing

/-!
Submissions to a partner over the network.  How such a submission ends follows from how its one
request went: the request was not made, it was not answered, or it was replied to.  It comes to an
outcome whatever the transport does, unless the reply to an accepted request nests deeper than there
is room for.
-/

set_option autoImplicit false

namespace LoanDispatch.Partner

section Reference

variable {reply : PartnerReply}

/-- The entry of a reply under a name, if it names a reference: neither null nor the empty text. -/
def Names (name : String) (entries : List (List Text.Point × Json.Raw)) (part : Json.Raw) : Prop :=
  Entries.lookup (Text.Point.ofChars name.toList) entries = some part ∧ part ≠ .null ∧
    part ≠ .text []

/-- The reference inside a document.  Only an object names one, under `reference` or else under
`id`. -/
inductive Cites : Json.Raw → Reference → Prop where
  | reference {entries : List (List Text.Point × Json.Raw)} {part : Json.Raw} :
      Names "reference" entries part → Cites (.object entries) part.shown
  | identifier {entries : List (List Text.Point × Json.Raw)} {part : Json.Raw} :
      (∀ other, ¬ Names "reference" entries other) → Names "id" entries part →
        Cites (.object entries) part.shown
  | unnamed {document : Json.Raw} :
      (∀ entries part, document = .object entries →
        ¬ Names "reference" entries part ∧ ¬ Names "id" entries part) →
        Cites document (.whole .null)

/-- The body of the reply nests deeper than there is room for. -/
def Overflows (reply : PartnerReply) : Prop :=
  ∃ kind, Json.readBody reply.room reply.body = .error (.tooDeep kind)

/-- What the body of a reply refers to; a body that is no document refers to nothing. -/
inductive Refers (reply : PartnerReply) : Reference → Prop where
  | cited {document : Json.Raw} {reference : Reference} :
      Json.readBody reply.room reply.body = .ok document → Cites document reference →
        Refers reply reference
  | malformed :
      Json.readBody reply.room reply.body = .error .malformed → Refers reply (.whole .null)

theorem reference?_cases (name : String) (entries : List (List Text.Point × Json.Raw)) :
    (∃ part, Names name entries part ∧
      (Entries.lookup (Text.Point.ofChars name.toList) entries).bind reference?
        = some part.shown) ∨
    (∀ part, ¬ Names name entries part) ∧
      (Entries.lookup (Text.Point.ofChars name.toList) entries).bind reference? = none := by
  cases found : Entries.lookup (Text.Point.ofChars name.toList) entries with
  | none => exact .inr ⟨fun part named => (nomatch found.symm.trans named.1), rfl⟩
  | some part =>
    have only : ∀ other, Names name entries other → other = part :=
      fun other named => Option.some.inj (named.1.symm.trans found)
    cases part with
    | null => exact .inr ⟨fun other named => named.2.1 (only other named), rfl⟩
    | text points =>
      cases points with
      | nil => exact .inr ⟨fun other named => named.2.2 (only other named), rfl⟩
      | cons point rest => exact .inl ⟨_, ⟨found, nofun, nofun⟩, rfl⟩
    | _ => exact .inl ⟨_, ⟨found, nofun, nofun⟩, rfl⟩

theorem cites_object (entries : List (List Text.Point × Json.Raw)) :
    Cites (.object entries)
      ((["reference", "id"].findSome? fun name =>
        (Entries.lookup (Text.Point.ofChars name.toList) entries).bind reference?).getD
          (.whole .null)) := by
  simp only [List.findSome?]
  rcases reference?_cases "reference" entries with ⟨part, named, same⟩ | ⟨unnamed, same⟩
  · simp only [same]
    exact .reference named
  · simp only [same]
    rcases reference?_cases "id" entries with ⟨part, named, same⟩ | ⟨nameless, same⟩
    · simp only [same]
      exact .identifier unnamed named
    · simp only [same]
      refine .unnamed fun others part shape => ?_
      cases shape
      exact ⟨unnamed part, nameless part⟩

/-- A reply refers to something or to nothing, unless its body nests too deep. -/
theorem referenceOf_cases (reply : PartnerReply) :
    (∃ reference, referenceOf reply = .ok reference ∧ Refers reply reference) ∨
    ∃ kind, referenceOf reply = .error (.tooDeep kind) ∧
      Json.readBody reply.room reply.body = .error (.tooDeep kind) := by
  unfold referenceOf
  cases read : Json.readBody reply.room reply.body with
  | error unreadable =>
    cases unreadable with
    | malformed => exact .inl ⟨_, rfl, .malformed read⟩
    | tooDeep kind => exact .inr ⟨kind, rfl, rfl⟩
  | ok document =>
    cases document with
    | object entries => exact .inl ⟨_, rfl, .cited read (cites_object entries)⟩
    | _ => exact .inl ⟨_, rfl, .cited read (.unnamed nofun)⟩

/-- The body of the reply is the document, in some style and encoding. -/
def Carries (reply : PartnerReply) (document : Json) : Prop :=
  document.Readable ∧ ∃ encoding marked style, Json.Style.Standard style ∧
    reply.body = Json.Encoding.encode encoding marked (document.render style)

theorem Carries.readBody {document : Json} (carries : Carries reply document) :
    Json.readBody reply.room reply.body = document.asRead reply.room := by
  obtain ⟨readable, encoding, marked, style, standard, same⟩ := carries
  rw [same, Json.readBody_encode_render encoding marked standard readable]

theorem Carries.read {document : Json} (carries : Carries reply document)
    (fits : document.nesting ≤ reply.room) :
    Json.readBody reply.room reply.body = .ok (.ofJson document) :=
  carries.readBody.trans (Json.asRead_of_nesting_le document carries.1 _ fits)

theorem Carries.refers {document : Json} (carries : Carries reply document)
    (fits : document.nesting ≤ reply.room) {reference : Reference}
    (refers : Refers reply reference) : Cites (.ofJson document) reference := by
  cases refers with
  | cited same cites =>
    cases (carries.read fits).symm.trans same
    exact cites
  | malformed failed => cases (carries.read fits).symm.trans failed

theorem Carries.overflows_iff {document : Json} (carries : Carries reply document) :
    Overflows reply ↔ reply.room < document.nesting := by
  constructor
  · rintro ⟨kind, failed⟩
    by_contra shallow
    cases (carries.read (Nat.le_of_not_lt shallow)).symm.trans failed
  · intro deep
    obtain ⟨kind, failed⟩ := Json.asRead_of_lt_nesting document carries.1 _ deep
    exact ⟨kind, carries.readBody.trans failed⟩

theorem Refers.not_overflows {reference : Reference} (refers : Refers reply reference) :
    ¬ Overflows reply := by
  rintro ⟨kind, failed⟩
  cases refers with
  | cited read _ => cases read.symm.trans failed
  | malformed read => cases read.symm.trans failed

end Reference

section Request

variable {link : Link} {endpoint : String} {payload : Payload} {sent : PartnerRequest}

end Request

section Exchange

variable {σ : Type} {around : Surroundings σ} {link : Link} {endpoint : String} {payload : Payload}
  {sent : PartnerRequest} {reply : PartnerReply} {fault : Fault}

/-- The outcome of a request that the partner did not answer. -/
inductive Unanswered : Fault → Outcome → Prop where
  | timedOut {failure : RemoteFailure} :
      failure.failureClass = .timeout → Unanswered (.remote failure) timedOut
  | broken {failure : RemoteFailure} :
      failure.failureClass = .transport →
        Unanswered (.remote failure) (lenderFailed true (faultText (.remote failure)))
  | raised {fault : Fault} :
      (∀ failure, fault = .remote failure →
        failure.failureClass ≠ .timeout ∧ failure.failureClass ≠ .transport) →
        Unanswered fault (lenderFailed false (faultText fault))

/-- How a submission over the network goes: the requests that reach the partner, and how it ends. -/
inductive Exchange (around : Surroundings σ) (link : Link) (payload : Payload) (state : σ) :
    List PartnerRequest → Except Fault Outcome → Prop where
  | unaddressed :
      link.endpoint.getD "" = "" →
        Exchange around link payload state []
          (.ok (lenderFailed false "Partner API endpoint is required."))
  | unmade {endpoint : String} {fault : Fault} :
      link.endpoint = some endpoint → endpoint ≠ "" →
      request link endpoint payload = .error fault →
        Exchange around link payload state [] (.ok (lenderFailed false (faultText fault)))
  | unanswered {endpoint : String} {sent : PartnerRequest} {fault : Fault} {outcome : Outcome} :
      link.endpoint = some endpoint → endpoint ≠ "" →
      request link endpoint payload = .ok sent → (around.partner sent state).1 = .error fault →
      Unanswered fault outcome → Exchange around link payload state [sent] (.ok outcome)
  | refused {endpoint : String} {sent : PartnerRequest} {reply : PartnerReply} {retryable : Bool} :
      link.endpoint = some endpoint → endpoint ≠ "" →
      request link endpoint payload = .ok sent → (around.partner sent state).1 = .ok reply →
      ¬ (200 ≤ reply.status ∧ reply.status ≤ 299) →
      (retryable = true ↔ TransientStatus reply.status) →
        Exchange around link payload state [sent]
          (.ok (lenderFailed retryable
            ("Lender responded with HTTP " ++ toString reply.status ++ ".")))
  | accepted {endpoint : String} {sent : PartnerRequest} {reply : PartnerReply}
      {reference : Reference} :
      link.endpoint = some endpoint → endpoint ≠ "" →
      request link endpoint payload = .ok sent → (around.partner sent state).1 = .ok reply →
      200 ≤ reply.status → reply.status ≤ 299 → Refers reply reference →
        Exchange around link payload state [sent] (.ok (.accepted reference))
  | overflowed {endpoint : String} {sent : PartnerRequest} {reply : PartnerReply} {kind : String} :
      link.endpoint = some endpoint → endpoint ≠ "" →
      request link endpoint payload = .ok sent → (around.partner sent state).1 = .ok reply →
      200 ≤ reply.status → reply.status ≤ 299 →
      Json.readBody reply.room reply.body = .error (.tooDeep kind) →
        Exchange around link payload state [sent] (.error (.misfit (.tooDeep kind)))

/-- The one request is replied to with a status of success. -/
def Welcomes (around : Surroundings σ) (state : σ) (posts : List PartnerRequest)
    (reply : PartnerReply) : Prop :=
  ∃ sent, posts = [sent] ∧ (around.partner sent state).1 = .ok reply ∧
    200 ≤ reply.status ∧ reply.status ≤ 299

theorem unanswered_quiet (fault : Fault) :
    (unanswered link payload fault).Quiet
      fun result => ∃ outcome, result = .ok outcome ∧ Unanswered fault outcome := by
  unfold unanswered
  split
  · exact ⟨_, rfl, .timedOut rfl⟩
  · exact ⟨_, rfl, .broken rfl⟩
  · next notTimeout notTransport =>
    refine ⟨_, rfl, .raised fun failure same => ⟨fun timeout => ?_, fun transport => ?_⟩⟩
    · obtain ⟨_, name, message, properties⟩ := failure
      obtain rfl := timeout
      exact notTimeout name message properties same
    · obtain ⟨_, name, message, properties⟩ := failure
      obtain rfl := transport
      exact notTransport name message properties same

theorem refused_quiet (status : Int) :
    (refused link payload status).Quiet
      (· = .ok (lenderFailed (isRetryableStatus status)
        ("Lender responded with HTTP " ++ toString status ++ "."))) := rfl

/-- What a submission does once its request has been answered, or could not be made. -/
def settle (link : Link) (payload : Payload) (start : Nat) :
    Except Fault PartnerReply → Script Outcome
  | .error fault => unanswered link payload fault
  | .ok reply =>
    if !isSuccess reply.status then refused link payload reply.status
    else do
      let duration := Script.duration start (← Script.readClock)
      notice .info link payload
        ("Application " ++ payload.application.id.display ++ " accepted by lender "
          ++ link.lenderId.display ++ " (HTTP " ++ toString reply.status ++ ", "
          ++ duration.amountText Script.durationFormat ++ " ms)")
        [("status_code", .int reply.status), ("duration_ms", .float duration)] none
      return .accepted (← .ofMisfit (referenceOf reply))

theorem submitOver_eq :
    submitOver link endpoint payload
      = .clock fun start =>
          (Script.ofFault (request link endpoint payload) >>= .askPartner).andThen
            (settle link payload start) := by
  simp only [submitOver, Script.readClock_bind, Script.attempt_bind]
  refine congrArg Script.clock (funext fun start => congrArg _ (funext fun result => ?_))
  cases result <;> rfl

theorem settle_quiet (given : link.endpoint = some endpoint) (filled : endpoint ≠ "")
    (made : request link endpoint payload = .ok sent) (state : σ) (start : Nat) :
    (settle link payload start (around.partner sent state).1).Quiet
      (Exchange around link payload state [sent]) := by
  cases answer : (around.partner sent state).1 with
  | error fault =>
    refine (unanswered_quiet fault).weaken fun result ended => ?_
    obtain ⟨outcome, rfl, unanswered⟩ := ended
    exact .unanswered given filled made answer unanswered
  | ok reply =>
    cases success : isSuccess reply.status with
    | true =>
      obtain ⟨low, high⟩ : 200 ≤ reply.status ∧ reply.status ≤ 299 := by
        simpa [isSuccess] using success
      simp only [settle, success, Bool.not_true, Bool.false_eq_true, ↓reduceIte]
      rcases referenceOf_cases reply with ⟨reference, same, refers⟩ | ⟨kind, same, deep⟩
      · rw [same]
        exact fun stop => .accepted given filled made answer low high refers
      · rw [same]
        exact fun stop => .overflowed given filled made answer low high deep
    | false =>
      have failed : ¬ (200 ≤ reply.status ∧ reply.status ≤ 299) := by
        simpa [isSuccess] using success
      simp only [settle, success, Bool.not_false, ↓reduceIte]
      refine (refused_quiet reply.status).weaken fun result ended => ?_
      subst ended
      exact .refused given filled made answer failed (isRetryableStatus_iff reply.status)

/-- A submission with an endpoint makes one request at most, and how it ends follows from it. -/
theorem submitOver_exchanges (around : Surroundings σ) (payload : Payload)
    (given : link.endpoint = some endpoint) (filled : endpoint ≠ "") (contexts : Log.Contexts)
    (world : World σ) :
    let ended := (submitOver link endpoint payload).run around contexts world
    ∃ posts, Exchange around link payload world.state posts ended.1 ∧
      ended.2.2.posts = world.posts ++ posts ∧ ended.2.2.requests = world.requests := by
  intro ended
  have same : ended = _ := congrArg (·.run around contexts world) submitOver_eq
  cases made : request link endpoint payload with
  | error fault =>
    rw [made] at same
    obtain ⟨⟨outcome, reached, unanswered⟩, alike⟩ :=
      (unanswered_quiet fault).run around contexts world.tick
    have ends : ended.1 = .ok outcome := same ▸ reached
    refine ⟨[], ?_, ?_, ?_⟩
    · rw [ends]
      -- What keeps a request from being made is no failure of the transport.
      rcases unmade_cases made with ⟨cause, rfl⟩ | ⟨message, rfl⟩
      · cases unanswered
        exact .unmade given filled made
      · cases unanswered with
        | timedOut timeout => cases timeout
        | broken transport => cases transport
        | raised _ => exact .unmade given filled made
    · rw [same]
      exact alike.posts.trans (List.append_nil _).symm
    · rw [same]
      exact alike.requests
  | ok sent =>
    rw [made] at same
    obtain ⟨exchange, alike⟩ :=
      (settle_quiet given filled made world.state world.tick.time).run around contexts
        (world.tick.answerPartner around sent).2
    rw [same]
    exact ⟨[sent], exchange, alike.posts, alike.requests⟩

theorem Unanswered.failed {outcome : Outcome} (unanswered : Unanswered fault outcome) :
    outcome.success = false := by
  cases unanswered <;> rfl

section Settled

variable {state : σ} {posts : List PartnerRequest} {ending : Except Fault Outcome}

/-- A request that can be made reaches the partner. -/
theorem Exchange.posts_eq (exchange : Exchange around link payload state posts ending)
    (given : link.endpoint = some endpoint) (filled : endpoint ≠ "")
    (made : request link endpoint payload = .ok sent) : posts = [sent] := by
  cases exchange with
  | unaddressed missing =>
    rw [given] at missing
    exact absurd missing filled
  | unmade also _ failed =>
    cases given.symm.trans also
    cases made.symm.trans failed
  | unanswered also _ again | refused also _ again | accepted also _ again
  | overflowed also _ again =>
    cases given.symm.trans also
    cases made.symm.trans again
    rfl

/-- A welcome is accepted with what it refers to, or its body nests too deep. -/
theorem Exchange.welcomed (exchange : Exchange around link payload state posts ending)
    (welcomes : Welcomes around state posts reply) :
    (∃ reference, ending = .ok (.accepted reference) ∧ Refers reply reference) ∨
    ∃ kind, ending = .error (.misfit (.tooDeep kind)) ∧ Overflows reply := by
  obtain ⟨sent, rfl, answer, low, high⟩ := welcomes
  cases exchange with
  | unanswered _ _ _ failed _ => cases answer.symm.trans failed
  | refused _ _ _ answered failed _ =>
    cases answer.symm.trans answered
    exact absurd ⟨low, high⟩ failed
  | accepted _ _ _ answered _ _ refers =>
    cases answer.symm.trans answered
    exact .inl ⟨_, rfl, refers⟩
  | overflowed _ _ _ answered _ _ deep =>
    cases answer.symm.trans answered
    exact .inr ⟨_, rfl, _, deep⟩

/-- What a welcome says is known from the document that its body carries. -/
theorem Exchange.carried (exchange : Exchange around link payload state posts ending)
    (welcomes : Welcomes around state posts reply) {document : Json}
    (carries : Carries reply document) :
    (document.nesting ≤ reply.room →
      ∃ reference, ending = .ok (.accepted reference) ∧ Cites (.ofJson document) reference) ∧
    (reply.room < document.nesting → ∃ kind, ending = .error (.misfit (.tooDeep kind))) := by
  rcases exchange.welcomed welcomes with ⟨reference, ends, refers⟩ | ⟨kind, ends, deep⟩
  · exact ⟨fun fits => ⟨reference, ends, carries.refers fits refers⟩,
      fun deep => absurd (carries.overflows_iff.mpr deep) refers.not_overflows⟩
  · exact ⟨fun fits => absurd (carries.overflows_iff.mp deep) (Nat.not_lt.mpr fits),
      fun _ => ⟨kind, ends⟩⟩

end Settled

theorem submit_exchanges (around : Surroundings σ) (payload : Payload) (http : link.mode = "http")
    (contexts : Log.Contexts) (world : World σ) :
    let ended := (submit link payload).run around contexts world
    ∃ posts, Exchange around link payload world.state posts ended.1 ∧
      ended.2.2.posts = world.posts ++ posts ∧ ended.2.2.requests = world.requests := by
  intro ended
  have unfolded : ended = (submit link payload).run around contexts world := rfl
  simp only [submit, http, ne_eq, not_true_eq_false, ↓reduceIte] at unfolded
  split at unfolded
  · next missing =>
    rw [unfolded]
    exact ⟨[], .unaddressed missing, (List.append_nil _).symm, rfl⟩
  · next filled =>
    rw [unfolded]
    cases given : link.endpoint with
    | none => exact absurd (by rw [given]; rfl) filled
    | some endpoint =>
      rw [given] at filled
      exact submitOver_exchanges around payload given filled contexts world

def smallLink : Link := ⟨.text "acme", 0, some "https://acme.example/loans", "http", .int 10⟩

def smallPayload : Payload := .small (Payload.smallMoment .utc)

/-- So many brackets, each around the next one. -/
def brackets : Nat → Json
  | 0 => .array []
  | count + 1 => .array [brackets count]

end Exchange

end LoanDispatch.Partner
