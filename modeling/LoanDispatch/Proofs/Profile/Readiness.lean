import LoanDispatch.Proofs.Script.Ending
import LoanDispatch.Proofs.Text.Blank
import LoanDispatch.Route
import LoanDispatch.Store.Memory
import LoanDispatch.Store.Session

/-!
Profiles that are ready to be submitted with.  A row is checked when its profile is made and again
when a route is chosen for the profile; whatever passes the first check passes the second one, and
the route is bound to what the row says.
-/

set_option autoImplicit false

namespace LoanDispatch

/-- Each lookup in a source asks nobody and finds the row, if there is one. -/
def LenderSource.Holds (source : LenderSource) (rows : String → Option LenderRow) : Prop :=
  ∀ lenderId, (source.fetch lenderId).Quiet (· = .ok (rows lenderId))

theorem Store.Memory.source_holds (store : Store.Memory) : store.source.Holds store.get? :=
  fun _ => rfl

theorem Store.Database.source_holds {δ σ : Type} (db : Store.Database δ σ) (stored : δ) :
    (db.source stored).Holds fun lenderId => db.select lenderId (db.start stored) := by
  intro lenderId
  cases found : db.select lenderId (db.start stored) with
  | none =>
    simp only [source, found]
    rfl
  | some row =>
    simp only [source, found]
    rfl

namespace Profile

/-- The profile of a lender among rows, or the fault that there is none. -/
def ofRows (rows : String → Option LenderRow) (lenderId : String) : Except Fault Profile :=
  match rows lenderId with
  | none => .error (.lenderNotFound (.text lenderId))
  | some row => (ofRow (.text lenderId) row).mapError .config

theorem resolve_quiet {source : LenderSource} {rows : String → Option LenderRow}
    (holds : source.Holds rows) (lenderId : String) :
    (resolve source lenderId).Quiet (· = ofRows rows lenderId) := by
  refine (holds lenderId).bind_ok ?_
  unfold ofRows
  cases rows lenderId with
  | none => rfl
  | some row =>
    simp only
    cases ofRow (.text lenderId) row with
    | error problem => rfl
    | ok profile => rfl

theorem ofRows_eq_error {rows : String → Option LenderRow} {lenderId : String} {fault : Fault}
    (failed : ofRows rows lenderId = .error fault) :
    (rows lenderId = none ∧ fault = .lenderNotFound (.text lenderId)) ∨
      ∃ row problem, rows lenderId = some row ∧ fault = .config problem := by
  unfold ofRows at failed
  cases found : rows lenderId with
  | none =>
    rw [found] at failed
    cases failed
    exact .inl ⟨rfl, rfl⟩
  | some row =>
    simp only [found] at failed
    cases checked : ofRow (.text lenderId) row with
    | error problem =>
      rw [checked] at failed
      cases failed
      exact .inr ⟨row, problem, rfl, rfl⟩
    | ok profile =>
      rw [checked] at failed
      cases failed

theorem ofRows_eq_ok {rows : String → Option LenderRow} {lenderId : String} {profile : Profile}
    (found : ofRows rows lenderId = .ok profile) :
    ∃ row, rows lenderId = some row ∧ ofRow (.text lenderId) row = .ok profile := by
  unfold ofRows at found
  cases held : rows lenderId with
  | none =>
    rw [held] at found
    cases found
  | some row =>
    simp only [held] at found
    cases checked : ofRow (.text lenderId) row with
    | error problem =>
      rw [checked] at found
      cases found
    | ok made =>
      rw [checked] at found
      cases found
      exact ⟨row, rfl, checked⟩

/-- A profile keeps what its row says, but for the address that its check has trimmed. -/
theorem ofRow_eq_ok {lenderId : Value} {row : LenderRow} {profile : Profile}
    (made : ofRow lenderId row = .ok profile) :
    profile.lenderId = lenderId ∧ profile.method = .channel (channelOf row.method) ∧
      profile.config = row.config ∧ checkedEmail lenderId row = .ok profile.email := by
  unfold ofRow at made
  cases checked : checkedEmail lenderId row with
  | error problem =>
    rw [checked] at made
    cases made
  | ok email =>
    rw [checked] at made
    cases made
    exact ⟨rfl, rfl, rfl, rfl⟩

theorem emailAddress_eq_ok {lenderId email address : Value}
    (checked : emailAddress lenderId email = .ok address) :
    ∃ words, email.text? = some words ∧ Text.trim words ≠ "" ∧
      address = .text (Text.trim words) := by
  unfold emailAddress at checked
  cases given : email.text? with
  | none =>
    rw [given] at checked
    cases checked
  | some words =>
    rw [given] at checked
    by_cases blank : Text.trim words = ""
    · simp [blank] at checked
    · simp [blank] at checked
      exact ⟨words, rfl, blank, checked.symm⟩

end Profile

namespace Route

/-- A configuration names an endpoint: the text of its entry without blanks, if any is left. -/
def NamesEndpoint (config : Value) (address : String) : Prop :=
  ∃ entries words, config = .map entries ∧
    (Value.getD "endpoint" entries).text? = some words ∧ address = Text.trim words ∧ address ≠ ""

theorem endpointOf_eq_some_iff {config : Value} {address : String} :
    endpointOf config = some address ↔ NamesEndpoint config address := by
  constructor
  · intro named
    unfold endpointOf at named
    split at named
    · next entries =>
      cases given : (Value.getD "endpoint" entries).text? with
      | none =>
        have blank : Text.trim "" = "" := by decide
        simp [Profile.trimmedEntry, given, blank] at named
      | some words =>
        by_cases blank : Text.trim words = ""
        · simp [Profile.trimmedEntry, given, blank] at named
        · simp [Profile.trimmedEntry, given, blank] at named
          exact ⟨entries, words, rfl, given, named.symm, named ▸ blank⟩
    · cases named
  · intro named
    obtain ⟨entries, words, rfl, given, rfl, filled⟩ := named
    simp [endpointOf, Profile.trimmedEntry, given, filled]

/-- What the route of a lender is bound to: what the lender's row says, trimmed. -/
inductive Bound (settings : Settings) (lenderId : String) (attempt : Int) (row : LenderRow) :
    Route → Prop where
  | email {words : String} :
      row.email.text? = some words → Text.trim words ≠ "" →
        Bound settings lenderId attempt row (.email ⟨Text.trim words, settings.fromAddress⟩)
  | sheet {config : Ledger.SheetConfig} :
      Profile.sheetConfig row.config = .ok config →
        Bound settings lenderId attempt row (.sheet config)
  | partner {link : Partner.Link} :
      link.lenderId = .text lenderId → link.attempt = attempt →
      (∀ address, link.endpoint = some address ↔ NamesEndpoint row.config address) →
        Bound settings lenderId attempt row (.partner link)

theorem channelOf_channel (channel : Channel) : channelOf (.channel channel) = .ok channel := by
  simp only [channelOf, Value.text?, Option.bind_some, Channel.ofCode?_code]

theorem addressOf_of_checked {profile : Profile} {words : String} (filled : Text.trim words ≠ "")
    (address : profile.email = .text (Text.trim words)) :
    addressOf profile = .ok (Text.trim words) := by
  simp [addressOf, address, Value.isGiven, Value.text?, filled]

/-- The profile of a row always has a route, and the route is bound to what the row says. -/
theorem ofProfile_of_row (settings : Settings) (attempt : Int) {lenderId : String}
    {row : LenderRow} {profile : Profile}
    (made : Profile.ofRow (.text lenderId) row = .ok profile) :
    ∃ route, ofProfile settings profile attempt = .ok route ∧
      route.channel = Profile.channelOf row.method ∧
      Bound settings lenderId attempt row route := by
  obtain ⟨lender, method, config, checked⟩ := Profile.ofRow_eq_ok made
  unfold Profile.checkedEmail at checked
  unfold ofProfile
  rw [method, channelOf_channel]
  cases channel : Profile.channelOf row.method with
  | email =>
    simp only [channel] at checked
    obtain ⟨words, given, filled, address⟩ := Profile.emailAddress_eq_ok checked
    refine ⟨.email ⟨Text.trim words, settings.fromAddress⟩, ?_, rfl, .email given filled⟩
    show (addressOf profile >>= fun address => _) = _
    rw [addressOf_of_checked filled address]
    rfl
  | api =>
    refine ⟨_, rfl, rfl, .partner lender rfl fun address => ?_⟩
    rw [← config]
    exact endpointOf_eq_some_iff
  | googleSheet =>
    simp only [channel] at checked
    cases read : Profile.sheetConfig row.config with
    | error problem =>
      rw [read] at checked
      cases checked
    | ok sheet =>
      refine ⟨.sheet sheet, ?_, rfl, .sheet read⟩
      show ((Profile.sheetConfig profile.config).mapError Fault.config >>= fun config => _) = _
      rw [config, read]
      rfl

theorem find_quiet {settings : Settings} {profile : Profile} {attempt : Int} {route : Route}
    (found : ofProfile settings profile attempt = .ok route) (payload : Payload) :
    (find settings profile payload attempt).Quiet (· = .ok route) := by
  unfold find
  rw [found]
  rfl

end Route

end LoanDispatch
