import LoanDispatch.Proofs.Delivery.Readiness
import LoanDispatch.Proofs.Log.Binding
import LoanDispatch.Proofs.Script.Nesting

/-!
The correlation of a delivery in the log.  The bound context is a stack, and a delivery nests its
contexts in it: it ends in the contexts of its beginning, and whatever the submission over the route
notes is correlated with the delivery.
-/

set_option autoImplicit false

namespace LoanDispatch

/-- The calls of a client nest their log contexts and give none of the keys to one. -/
structure Spreadsheet.Client.Nests (keys : List String) (client : Spreadsheet.Client) : Prop where
  titles (spreadsheetId : String) : (client.titles spreadsheetId).Nests keys 0
  values (spreadsheetId range : String) : (client.values spreadsheetId range).Nests keys 0
  append (spreadsheetId range : String) (row : List Value) :
    (client.append spreadsheetId range row).Nests keys 0

def LenderSource.Nests (source : LenderSource) : Prop :=
  ∀ lenderId, (source.fetch lenderId).Nests [] 0

section Calls

variable {keys : List String}

open Script

theorem Spreadsheet.Client.plain_nests : plain.Nests keys where
  titles _ := nests_askSheet _
  values _ _ := nests_askSheet _
  append _ _ _ := nests_askSheet _

theorem Spreadsheet.Client.askDocument_nests (request : SheetRequest) :
    (askDocument request).Nests keys 0 := by
  intro answer
  cases answer <;> exact rfl

theorem Spreadsheet.Client.interface_nests : interface.Nests keys where
  titles _ := (askDocument_nests _).bind fun _ => nests_ofMisfit _
  values _ _ := (askDocument_nests _).bind fun _ => nests_ofMisfit _
  append _ _ _ :=
    (askDocument_nests _).bind fun _ => (nests_ofMisfit _).bind fun _ => rfl

theorem Store.Memory.source_nests (store : Store.Memory) : store.source.Nests := fun _ => rfl

theorem Store.Database.source_nests {δ σ : Type} (db : Store.Database δ σ) (stored : δ) :
    (db.source stored).Nests := by
  intro lenderId
  unfold Store.Database.source
  simp only
  split <;> exact rfl

theorem Profile.resolve_nests {source : LenderSource} (nests : source.Nests) (lenderId : String) :
    (Profile.resolve source lenderId).Nests [] 0 := by
  refine (nests lenderId).bind fun found => ?_
  cases found with
  | none => exact rfl
  | some row =>
    simp only
    split <;> exact rfl

theorem Route.find_nests (settings : Settings) (profile : Profile) (payload : Payload)
    (number : Int) : (Route.find settings profile payload number).Nests keys 0 :=
  (nests_done _).bind fun _ => rfl

theorem Email.submit_nests (mailbox : Email.Mailbox) (payload : Payload) :
    (Email.submit mailbox payload).Nests keys 0 :=
  (nests_ofMisfit _).bind fun _ => rfl

theorem Partner.submitSimulated_nests (link : Partner.Link) (payload : Payload) :
    (Partner.submitSimulated link payload).Nests keys 0 := by
  unfold Partner.submitSimulated
  simp only
  split
  · exact rfl
  · split
    · refine (nests_ofMisfit _).bind fun forced => ?_
      cases forced <;> exact rfl
    · exact rfl

theorem Partner.unanswered_nests (link : Partner.Link) (payload : Payload) (fault : Fault) :
    (Partner.unanswered link payload fault).Nests keys 0 := by
  unfold Partner.unanswered
  simp only
  split <;> exact rfl

theorem Partner.submitOver_nests (link : Partner.Link) (endpoint : String) (payload : Payload) :
    (Partner.submitOver link endpoint payload).Nests keys 0 := by
  refine nests_readClock.bind fun start => ?_
  have exchange : (do Script.askPartner (← .ofFault (Partner.request link endpoint payload)) :
      Script PartnerReply).Nests keys 0 :=
    (nests_done _).bind fun _ => nests_askPartner _
  refine exchange.attempt.bind fun result => ?_
  cases result with
  | error fault => exact Partner.unanswered_nests link payload fault
  | ok reply =>
    simp only
    split
    · exact rfl
    · refine nests_readClock.bind fun stop => ?_
      exact (nests_write _).bind fun _ => (nests_ofMisfit _).bind fun reference => rfl

theorem Partner.submit_nests (link : Partner.Link) (payload : Payload) :
    (Partner.submit link payload).Nests keys 0 := by
  unfold Partner.submit
  simp only
  split
  · exact Partner.submitSimulated_nests link payload
  · split
    · exact rfl
    · exact Partner.submitOver_nests link _ payload

theorem Ledger.appendRow_nests {client : Spreadsheet.Client} (nests : client.Nests keys)
    (map : ColumnMap) (config : Ledger.SheetConfig) (payload : Payload) (title : Value)
    (headers : List String) :
    (Ledger.appendRow client map config payload title headers).Nests keys 0 := by
  refine (nests_ofMisfit _).bind fun row => ?_
  refine (nests_ofMisfit _).bind fun last => ?_
  refine (nests_ofMisfit _).bind fun range => ?_
  refine (nests.append _ _ _).bind fun reported => ?_
  exact (nests_ofMisfit _).bind fun reference => rfl

theorem Ledger.place_nests {access : Except Fault Spreadsheet.Client}
    (nests : ∀ client, access = .ok client → client.Nests keys) (registry : Registry)
    (config : Ledger.SheetConfig) (payload : Payload) :
    (Ledger.place access registry config payload).Nests keys 0 := by
  cases access with
  | error fault => exact rfl
  | ok client =>
    have calls := nests client rfl
    rw [Ledger.place, ofFault_ok_bind]
    refine (nests_done _).bind fun map => ?_
    refine (calls.titles _).bind fun titles => ?_
    refine (nests_done _).bind fun title => ?_
    refine (nests_ofMisfit _).bind fun headerRange => ?_
    refine (calls.values _ _).bind fun rows => ?_
    refine (nests_ofMisfit _).bind fun headers => ?_
    refine (nests_done _).bind fun identifier => ?_
    refine (nests_ofMisfit _).bind fun columnRange => ?_
    refine (calls.values _ _).bind fun cells => ?_
    refine (nests_ofMisfit _).bind fun existing => ?_
    cases existing with
    | some row => exact rfl
    | none => exact Ledger.appendRow_nests calls map config payload title headers

theorem Ledger.submit_nests {access : Except Fault Spreadsheet.Client}
    (nests : ∀ client, access = .ok client → client.Nests keys) (registry : Registry)
    (config : Ledger.SheetConfig) (payload : Payload) :
    (Ledger.submit access registry config payload).Nests keys 0 := by
  refine nests_readClock.bind fun start => ?_
  refine (nests_write _).bind fun _ => ?_
  refine (Ledger.place_nests nests registry config payload).attempt.bind fun result => ?_
  rcases result with fault | row | ⟨title, range, reference⟩
  · exact (nests_ofMisfit _).bind fun retryable => rfl
  · exact rfl
  · exact nests_readClock.bind fun stop => rfl

theorem Route.dispatch_nests {deployment : Deployment}
    (nests : ∀ client, deployment.sheetAccess = .ok client → client.Nests keys) (payload : Payload)
    (route : Route) : (route.dispatch deployment payload).Nests keys 0 := by
  cases route with
  | email mailbox => exact Email.submit_nests mailbox payload
  | partner link => exact Partner.submit_nests link payload
  | sheet config => exact Ledger.submit_nests nests deployment.columnMaps config payload

end Calls

namespace Delivery

variable {σ : Type} {around : Surroundings σ} {deployment : Deployment} {source : LenderSource}
  {lenderId : String} {payload : Payload} {number : Int} {contexts inner : Log.Contexts}
  {world opened : World σ} {profile : Profile} {route : Route}

/-- The keys that correlate an entry with a delivery. -/
def correlationKeys : List String := ["application_id", "lender_id", "channel", "attempt"]

/-- The context around a delivery. -/
def deliveryFields (lenderId : String) (payload : Payload) (number : Int) : Log.Fields :=
  [("application_id", payload.application.id), ("lender_id", .text lenderId),
   ("attempt", .int number)]

/-- The context around the submission over a route. -/
def submissionFields (lenderId : Value) (payload : Payload) (number : Int) (route : Route) :
    Log.Fields :=
  [("application_id", payload.application.id), ("lender_id", lenderId),
   ("channel", .text route.channel.code), ("attempt", .int number)]

structure Correlated (lenderId : String) (payload : Payload) (number : Int) (route : Route)
    (entry : Log.Entry) : Prop where
  application : Entries.lookup "application_id" entry.context = some payload.application.id
  lender : Entries.lookup "lender_id" entry.context = some (.text lenderId)
  channel : Entries.lookup "channel" entry.context = some (.text route.channel.code)
  attempt : Entries.lookup "attempt" entry.context = some (.int number)

/-- A delivery comes to the submission over a route in these contexts and this world: a profile is
found, and the route is chosen for it. -/
def Reaches (around : Surroundings σ) (deployment : Deployment) (source : LenderSource)
    (lenderId : String) (payload : Payload) (number : Int) (contexts : Log.Contexts)
    (world : World σ) (route : Route) (inner : Log.Contexts) (opened : World σ) : Prop :=
  let outer := contexts.enter (deliveryFields lenderId payload number)
  let search := (Profile.resolve source lenderId).run around outer world
  ∃ profile, search.1 = .ok profile ∧
    Route.ofProfile deployment.settings profile number = .ok route ∧
    inner = outer.enter (submissionFields profile.lenderId payload number route) ∧
    let find := Route.find deployment.settings profile payload number
    opened = (find.run around outer search.2.2).2.2.tick

section Nesting

theorem conclude_nests (report : Report) {keys : List String} :
    (conclude lenderId payload number report).Nests keys 0 := by
  unfold conclude
  simp only
  split <;> exact rfl

theorem submit_nests
    (nests : ∀ client, deployment.sheetAccess = .ok client → client.Nests correlationKeys)
    (profile : Profile) (route : Route) :
    (route.submit deployment profile payload number).Nests [] 0 :=
  ((Route.dispatch_nests nests payload route).of_subset (List.nil_subset _)).within
    fun _ _ named => nomatch named

theorem deliver_nests (fetches : source.Nests)
    (nests : ∀ client, deployment.sheetAccess = .ok client → client.Nests correlationKeys)
    (lenderId : String) (payload : Payload) (number : Int) :
    (deliver deployment source lenderId payload number).Nests [] 0 := by
  refine Script.Nests.bind (.within ?_ fun _ _ named => nomatch named) fun report => ?_
  · refine (Profile.resolve_nests fetches lenderId).bind fun profile => ?_
    refine (Route.find_nests _ profile payload number).bind fun route => ?_
    refine Script.nests_readClock.bind fun start => ?_
    refine (submit_nests nests profile route).bind fun outcome => ?_
    exact Script.nests_readClock.bind fun stop => rfl
  · exact (conclude_nests report).bind fun _ => rfl

/-- With a client and a store of this library, a delivery leaves the log context as it was. -/
theorem contexts_of_known_client
    (known : ∀ client, deployment.sheetAccess = .ok client →
      client = Spreadsheet.Client.plain ∨ client = .interface)
    (stored : (∃ memory : Store.Memory, source = memory.source) ∨
      ∃ (δ τ : Type) (db : Store.Database δ τ) (data : δ), source = db.source data)
    (lenderId : String) (payload : Payload) (number : Int) (around : Surroundings σ)
    (contexts : Log.Contexts) (world : World σ) :
    ((deliver deployment source lenderId payload number).run around contexts world).2.1
      = contexts := by
  have fetches : source.Nests := by
    rcases stored with ⟨memory, rfl⟩ | ⟨_, _, db, data, rfl⟩
    · exact memory.source_nests
    · exact db.source_nests data
  have nests : ∀ client, deployment.sheetAccess = .ok client → client.Nests correlationKeys := by
    intro client given
    rcases known client given with rfl | rfl
    · exact Spreadsheet.Client.plain_nests
    · exact Spreadsheet.Client.interface_nests
  exact ((deliver_nests fetches nests lenderId payload number).run .base around world).1

end Nesting

theorem resolve_lenderId (search : ((Profile.resolve source lenderId).run around contexts world).1
    = .ok profile) : profile.lenderId = .text lenderId := by
  have ends : (Profile.resolve source lenderId).Ends around
      fun result => ∀ found, result = .ok found → found.lenderId = .text lenderId := by
    refine Script.Ends.andThen fun contexts world => ?_
    rcases ((source.fetch lenderId).run around contexts world).1 with fault | found | row
    · exact Script.ends_done nofun
    · exact Script.ends_done nofun
    · simp only
      cases made : Profile.ofRow (.text lenderId) row with
      | error problem => exact .note (Script.ends_done nofun) _
      | ok known =>
        refine .note (Script.ends_done fun found same => ?_) _
        cases same
        exact (Profile.ofRow_eq_ok made).1
  exact ends contexts world profile search

/-- What the submission over the route notes is correlated with the delivery. -/
theorem dispatch_correlated
    (nests : ∀ client, deployment.sheetAccess = .ok client → client.Nests correlationKeys)
    (given : payload.application.id.isNull = false) (around : Surroundings σ) (lenderId : String)
    (number : Int) (route : Route) (contexts : Log.Contexts) (world : World σ) :
    let inner := contexts.enter (submissionFields (.text lenderId) payload number route)
    let submitted := (route.dispatch deployment payload).run around inner world
    submitted.2.1 = inner ∧ ∃ during, submitted.2.2.entries = world.entries ++ during ∧
      ∀ entry ∈ during, Correlated lenderId payload number route entry := by
  intro inner submitted
  have above : Script.Above correlationKeys inner 0 inner := .base
  obtain ⟨ended, during, entries, seen⟩ :=
    (Route.dispatch_nests nests payload route).run above around world
  have distinct :
      ((submissionFields (.text lenderId) payload number route).map Prod.fst).Nodup := by
    simp [submissionFields]
  have looked {key : String} {value : Value} (named : key ∈ correlationKeys)
      (member : (key, value) ∈ submissionFields (.text lenderId) payload number route)
      (present : value.isNull = false) {entry : Log.Entry} (among : entry ∈ during) :
      Entries.lookup key entry.context = some value :=
    (seen entry among key named).trans
      (Log.Contexts.lookup_enter_of_mem distinct member present)
  refine ⟨ended, during, entries, fun entry among => ?_⟩
  exact
    { application := looked (by simp [correlationKeys]) (by simp [submissionFields]) given among
      lender := looked (by simp [correlationKeys]) (by simp [submissionFields]) rfl among
      channel := looked (by simp [correlationKeys]) (by simp [submissionFields]) rfl among
      attempt := looked (by simp [correlationKeys]) (by simp [submissionFields]) rfl among }

/-- An attempt ends as the submission does, and notes nothing after it. -/
theorem attempt_of_reaches (fetches : source.Nests)
    (nests : ∀ client, deployment.sheetAccess = .ok client → client.Nests correlationKeys)
    (reaches : Reaches around deployment source lenderId payload number contexts world route inner
      opened) :
    let outer := contexts.enter (deliveryFields lenderId payload number)
    let submitted := (route.dispatch deployment payload).run around inner opened
    ∃ result reached,
      (attempt deployment source lenderId payload number).run around outer world
        = (result, outer, reached) ∧
      result.map Report.outcome = submitted.1 ∧ reached.entries = submitted.2.2.entries := by
  intro outer submitted
  obtain ⟨profile, found, routed, rfl, rfl⟩ := reaches
  let searched := ((Profile.resolve source lenderId).run around outer world).2.2
  let find := Route.find deployment.settings profile payload number
  let chosen := (find.run around outer searched).2.2
  have search : (Profile.resolve source lenderId).run around outer world
      = (.ok profile, outer, searched) := by
    have nest := Profile.resolve_nests fetches lenderId
    exact Prod.ext found (Prod.ext (nest.run .base around world).1 rfl)
  have choice : find.run around outer searched = (.ok route, outer, chosen) := by
    have nest : find.Nests [] 0 := Route.find_nests _ profile payload number
    exact Prod.ext ((Route.find_quiet routed payload).run around outer searched).1
      (Prod.ext (nest.run .base around searched).1 rfl)
  have submission : (route.submit deployment profile payload number).run around outer chosen.tick
      = (submitted.1, outer, submitted.2.2) := by
    refine Script.run_within (Prod.ext rfl (Prod.ext ?_ rfl))
    exact ((Route.dispatch_nests nests payload route).run .base around chosen.tick).1
  have whole : (attempt deployment source lenderId payload number).run around outer world
      = (do
          let outcome ← route.submit deployment profile payload number
          let stop ← Script.readClock
          return ⟨route, outcome, Script.duration chosen.tick.time stop⟩ :
        Script Report).run around outer chosen.tick :=
    (Script.run_bind_of_ok search).trans (Script.run_bind_of_ok choice)
  cases ended : submitted.1 with
  | error fault =>
    rw [ended] at submission
    exact ⟨_, _, whole.trans (Script.run_bind_of_error submission), rfl, rfl⟩
  | ok outcome =>
    rw [ended] at submission
    exact ⟨_, _, whole.trans (Script.run_bind_of_ok submission), rfl, rfl⟩

/-- A delivery ends as its submission does, and only concludes after it. -/
theorem deliver_of_reaches (fetches : source.Nests)
    (nests : ∀ client, deployment.sheetAccess = .ok client → client.Nests correlationKeys)
    (reaches : Reaches around deployment source lenderId payload number contexts world route inner
      opened) :
    let ended := (deliver deployment source lenderId payload number).run around contexts world
    let submitted := (route.dispatch deployment payload).run around inner opened
    ended.1 = submitted.1 ∧ ∃ after, ended.2.2.entries = submitted.2.2.entries ++ after := by
  intro ended submitted
  obtain ⟨result, reached, attempted, same, entries⟩ := attempt_of_reaches fetches nests reaches
  have around' := Script.run_within attempted
  cases result with
  | error fault =>
    have whole : ended = (.error fault, contexts, reached) := Script.run_bind_of_error around'
    rw [whole]
    exact ⟨same, [], entries.trans (List.append_nil _).symm⟩
  | ok report =>
    let concluded := (conclude lenderId payload number report).run around contexts reached
    have quiet : concluded.1 = .ok () := ((conclude_quiet report).run around contexts reached).1
    have nest : (conclude lenderId payload number report).Nests [] 0 := conclude_nests report
    obtain ⟨_, after, written, _⟩ := nest.run .base around reached
    have whole : ended = (.ok report.outcome, concluded.2.1, concluded.2.2) :=
      (Script.run_bind_of_ok around').trans
        (Script.run_bind_of_ok (Prod.ext quiet rfl))
    rw [whole]
    exact ⟨same, after, written.trans (congrArg (· ++ after) entries)⟩

/-- The log context is a stack: it holds what the open contexts give and is handed out as it is, and
leaving a context brings back what was before.  A delivery leaves it as it was, whether it returns or fails, and everything that
the submission over its route notes is correlated with it. -/
theorem log_context_is_stack :
    (∀ (ambient : Option Log.Fields) (before : List Log.Use),
      let state := (Log.Binding.ambient ambient).follow before
      state.content = Log.merged (ambient.getD []) (Log.openedBy before) ∧
      state.hand.2.read (some state.hand.1) = state.content ∧
      ∀ (fields : Log.Fields) (inner : List Log.Use) (ending : Except Fault Unit),
        Log.Balanced inner →
        let after := state.follow (.enter fields :: (inner ++ [.leave ending]))
        after.bound = state.bound ∧ after.content = state.content) ∧
    ∀ {σ : Type} (around : Surroundings σ) (deployment : Deployment) (source : LenderSource)
      (lenderId : String) (payload : Payload) (number : Int) (contexts : Log.Contexts)
      (world : World σ),
      source.Nests →
      (∀ client, deployment.sheetAccess = .ok client → client.Nests correlationKeys) →
      payload.application.id.isNull = false →
      let script := deliver deployment source lenderId payload number
      let ended := script.run around contexts world
      ended.2.1 = contexts ∧
      (∀ binding : Log.Binding, binding.Mirrors contexts →
        (binding.follow (script.uses around contexts world)).content = binding.content) ∧
      ∀ route inner opened,
        Reaches around deployment source lenderId payload number contexts world route inner opened →
        let submitted := (route.dispatch deployment payload).run around inner opened
        ended.1 = submitted.1 ∧
        ∃ during after, submitted.2.2.entries = opened.entries ++ during ∧
          ended.2.2.entries = submitted.2.2.entries ++ after ∧
          ∀ entry ∈ during, Correlated lenderId payload number route entry := by
  constructor
  · intro ambient before state
    refine ⟨Log.Binding.content_follow ambient before, Log.Binding.read_hand state,
      fun fields inner ending balanced => ?_⟩
    obtain ⟨bound, _, content⟩ := Log.Binding.follow_scope ambient before balanced fields ending
    exact ⟨bound, content⟩
  · intro σ around deployment source lenderId payload number contexts world fetches nests given
      script ended
    have whole : script.Nests [] 0 := deliver_nests fetches nests lenderId payload number
    refine ⟨(whole.run .base around world).1, fun binding mirrors => ?_, ?_⟩
    · have filled : contexts ≠ [] := mirrors.contents ▸ List.cons_ne_nil _ _
      rw [(whole.follow .base filled mirrors around world).content, mirrors.content]
    · intro route inner opened reaches submitted
      obtain ⟨same, after, concluded⟩ := deliver_of_reaches fetches nests reaches
      obtain ⟨profile, found, _, entered, _⟩ := reaches
      rw [resolve_lenderId found] at entered
      obtain ⟨_, during, noted, correlated⟩ := dispatch_correlated nests given around lenderId number
        route (contexts.enter (deliveryFields lenderId payload number)) opened
      rw [← entered] at noted
      exact ⟨same, during, after, noted, concluded, correlated⟩

def otherContext : Log.Fields := [("application_id", .text "other"), ("channel", .text "email")]

/-- A context left by a fault with its copy emptied, and a delivery to a sheet inside the context of
another application. -/
theorem padded_delivery_is_correlated :
    let state := (Log.Binding.ambient (some otherContext)).follow [.enter [("lender_id", .null)]]
    let inner : List Log.Use := [.hand, .change 0 fun _ => []]
    let script := deliver (smallDeployment .plain) paddedStore.source "acme"
      (Ledger.smallOrder "A-1").payload 0
    let ended := script.run (Ledger.smallSurroundings .plain) [otherContext]
      (World.fresh (Ledger.smallBook []) 0)
    state.content = otherContext ∧
      (state.follow (.enter [("channel", .text "api")] ::
        (inner ++ [.leave (.error (.misfit .wrongArguments))]))).content = otherContext ∧
      ended.2.1 = [otherContext] ∧
      ∃ route before during after, ended.2.2.entries = before ++ during ++ after ∧ during ≠ [] ∧
        ∀ entry ∈ during, Correlated "acme" (Ledger.smallOrder "A-1").payload 0 route entry := by
  intro state inner script ended
  obtain ⟨stack, deliveries⟩ := log_context_is_stack
  obtain ⟨content, _, scopes⟩ := stack (some otherContext) [.enter [("lender_id", .null)]]
  have held : state.content = otherContext := content.trans rfl
  obtain ⟨_, restored⟩ := scopes [("channel", .text "api")] inner
    (.error (.misfit .wrongArguments)) (.hand (.change .nil))
  have nests : ∀ client, (smallDeployment .plain).sheetAccess = .ok client →
      client.Nests correlationKeys := by
    intro client given
    cases given
    exact Spreadsheet.Client.plain_nests
  obtain ⟨left, _, submissions⟩ := deliveries (Ledger.smallSurroundings .plain)
    (smallDeployment .plain) paddedStore.source "acme" (Ledger.smallOrder "A-1").payload 0
    [otherContext] (World.fresh (Ledger.smallBook []) 0) paddedStore.source_nests nests rfl
  obtain ⟨_, during, after, noted, concluded, correlated⟩ :=
    submissions _ _ _ ⟨_, rfl, rfl, rfl, rfl⟩
  refine ⟨held, restored.trans held, left, _, _, during, after, noted ▸ concluded, ?_, correlated⟩
  intro empty
  rw [empty, List.append_nil] at noted
  exact absurd (congrArg List.length noted) (by decide +kernel)

end Delivery

end LoanDispatch
