import LoanDispatch.Proofs.ColumnMap.Coherence
import LoanDispatch.Proofs.Ledger.Grounds
import LoanDispatch.Proofs.Ledger.Raising
import LoanDispatch.Proofs.Value.Failing

/-!
The checks of the identifier column.  A registered map has an identifier column, and a sheet without
the header of that column lacks a header of the map, which is reported first.  So the two messages
about the identifier are only ever shown when a client says them itself.
-/

set_option autoImplicit false

namespace LoanDispatch.Ledger

open Spreadsheet Result

/-- The messages of the two checks of the identifier column. -/
def identifierMessages : List String :=
  ["Application ID mapping is required.", "Application ID column is missing from sheet."]

/-- The check of the identifier column says nothing else. -/
theorem message_of_identifierHeader {map : ColumnMap} {headers : List String}
    {problem : LayoutProblem} (failed : identifierHeader map headers = .error problem) :
    problem.message ∈ identifierMessages := by
  unfold identifierHeader at failed
  split at failed
  · cases failed
    exact List.mem_cons_self
  · split at failed
    · cases failed
    · cases failed
      exact List.mem_cons_of_mem _ List.mem_cons_self

/-- The client raises a fault in one of its calls, or there is no client for this reason. -/
inductive Raises {σ : Type} (around : Surroundings σ) : Except Fault Client → Fault → Prop where
  | absent {fault : Fault} : Raises around (.error fault) fault
  | titles {client : Client} {spreadsheetId : String} {contexts : Log.Contexts} {world : World σ}
      {fault : Fault} :
      ((client.titles spreadsheetId).run around contexts world).1 = .error fault →
        Raises around (.ok client) fault
  | values {client : Client} {spreadsheetId range : String} {contexts : Log.Contexts}
      {world : World σ} {fault : Fault} :
      ((client.values spreadsheetId range).run around contexts world).1 = .error fault →
        Raises around (.ok client) fault
  | append {client : Client} {spreadsheetId range : String} {row : List Value}
      {contexts : Log.Contexts} {world : World σ} {fault : Fault} :
      ((client.append spreadsheetId range row).run around contexts world).1 = .error fault →
        Raises around (.ok client) fault

/-- A submission ends with a message: its outcome shows it, or else what it raises. -/
def EndsWith (message : String) : Except Fault Outcome → Prop
  | .ok outcome => outcome.detail = .text message
  | .error fault => fault.text = message

section Messages

variable {message : String}

theorem head?_of_mem (member : message ∈ identifierMessages) :
    message.toList.head? = some 'A' := by
  rcases List.mem_cons.mp member with rfl | member
  · exact Misfit.head?_ofList
  · obtain rfl := List.mem_singleton.mp member
    exact Misfit.head?_ofList

/-- The fault shows none of the messages. -/
def Unrelated (fault : Fault) : Prop :=
  ∀ message ∈ identifierMessages, failureDetail fault ≠ .text message

theorem unrelated_of_detail {fault : Fault} {words : String}
    (detail : failureDetail fault = .text words) (other : words.toList.head? ≠ some 'A') :
    Unrelated fault := by
  intro message member shown
  cases detail.symm.trans shown
  exact other (head?_of_mem member)

theorem unrelated_of_head? {fault : Fault} {words : String} {c : Char}
    (detail : failureDetail fault = .text words) (initial : words.toList.head? = some c)
    (other : c ≠ 'A') : Unrelated fault := by
  apply unrelated_of_detail detail
  rw [initial]
  simpa using other

theorem unrelated_misfit {cause : Misfit} (apart : cause.Apart) : Unrelated (.misfit cause) := by
  have shape : failureDetail (.misfit cause)
      = (Value.text cause.text).orElse (.text "Unknown Google Sheets error.") := rfl
  cases given : (Value.text cause.text).isGiven with
  | true =>
    rw [Value.orElse, given] at shape
    exact unrelated_of_detail shape apart
  | false =>
    rw [Value.orElse, given] at shape
    exact unrelated_of_head? shape Misfit.head?_ofList (by decide)

end Messages

section Steps

variable {map : ColumnMap} {title : Value} {headers : List String}

/-- The headers of a sound map are missing before its identifier column could be. -/
theorem checkHeaders_of_sound (sound : map.Sound) {problem : LayoutProblem}
    (failed : checkHeaders map title headers = .error problem) :
    problem = .headerRowMissing title ∨
      ∃ missing, problem = .headersMissing missing map.version := by
  unfold checkHeaders at failed
  split at failed
  · cases failed
    exact .inl rfl
  · split at failed
    · next complete =>
      obtain ⟨header, mapped, named, _⟩ := sound.identifierHeader
      have present : header ∈ headers := missingHeaders_eq_nil_iff.mp complete header mapped
      simp [identifierHeader, named, present] at failed
    · cases failed
      exact .inr ⟨_, rfl⟩

theorem failsOnly_addressIn (title : Value) (cells : String) :
    FailsOnly Misfit.Apart (addressIn title cells) := by
  unfold addressIn
  split
  · exact failsOnly_ok _
  · exact Misfit.failsOnly_apart nofun nofun

theorem failsOnly_cellText (cell : Value) : FailsOnly Misfit.Apart (cellText cell) := by
  unfold cellText
  split
  · exact failsOnly_ok ""
  · exact (Value.failsOnly_printed cell).map Text.trim

theorem failsOnly_headersOf (rows : Value) : FailsOnly Misfit.Apart (headersOf rows) := by
  have read (row : Value) : FailsOnly Misfit.Apart (row.iterate >>= (·.mapM cellText)) :=
    (Value.failsOnly_iterate row).bind fun cells => failsOnly_mapM failsOnly_cellText cells
  unfold headersOf
  split
  · exact (Value.failsOnly_first rows).bind read
  · exact (failsOnly_ok (Value.list [])).bind read

theorem failsOnly_findRow (target : String) (rows : List Value) (number : Nat) :
    FailsOnly Misfit.Apart (findRow target number rows) := by
  induction rows generalizing number with
  | nil => exact failsOnly_ok none
  | cons row rest ih =>
    rw [findRow]
    split
    · exact ih (number + 1)
    · refine (Value.failsOnly_first row).bind fun cell => ?_
      refine (failsOnly_cellText cell).bind fun shown => ?_
      split
      · exact failsOnly_ok _
      · exact ih (number + 1)

theorem failsOnly_existingRow (column id : Value) :
    FailsOnly Misfit.Apart (existingRow column id) :=
  (failsOnly_cellText id).bind fun target =>
    (Value.failsOnly_afterFirst column).bind fun rows => failsOnly_findRow target rows 2

theorem failsOnly_buildRow (payload : Payload) (map : ColumnMap) (headers : List String) :
    FailsOnly Misfit.Apart (buildRow payload map headers) :=
  failsOnly_mapM (fun header => failsOnly_resolveCell payload.toValue (map.path? header)) headers

theorem failsOnly_columnLetters (index : Int) : FailsOnly Misfit.Apart (columnLetters index) := by
  unfold columnLetters
  split
  · exact Misfit.failsOnly_apart nofun nofun
  · exact failsOnly_ok _

theorem failsOnly_reportedRow? (range : Value) : FailsOnly Misfit.Apart (reportedRow? range) := by
  unfold reportedRow?
  split
  · exact failsOnly_ok _
  · split
    · exact Misfit.failsOnly_apart nofun nofun
    · split
      · exact failsOnly_ok _
      · exact (Number.failsOnly_readInteger _).map _

theorem failsOnly_referenceOf (range : Value) : FailsOnly Misfit.Apart (referenceOf range) := by
  refine (failsOnly_reportedRow? range).bind fun row => ?_
  cases row with
  | none => exact failsOnly_ok _
  | some number => exact failsOnly_ok _

end Steps

section Placement

variable {σ : Type} {around : Surroundings σ} {access : Except Fault Client} {registry : Registry}
  {config : SheetConfig} {payload : Payload}

theorem unrelated_of_find {version : String} {fault : Fault}
    (failed : registry.find (.text version) = .error fault) : Unrelated fault := by
  rw [Registry.find_text] at failed
  split at failed
  · cases failed
  · cases failed
    exact unrelated_of_head? rfl Misfit.head?_ofList (by decide)

theorem unrelated_of_pickTitle {titles : Value} {requested : Option String} {fault : Fault}
    (failed : pickTitle titles requested = .error fault) : Unrelated fault := by
  unfold pickTitle at failed
  simp only at failed
  split at failed
  · split at failed
    · cases failed
    · cases failed
      exact unrelated_of_head? rfl Misfit.head?_ofList (by decide)
    · next cause unread =>
      cases failed
      exact unrelated_misfit (Value.failsOnly_includes _ _ cause unread)
  · split at failed
    · cases failed
      exact unrelated_of_head? rfl Misfit.head?_ofList (by decide)
    · split at failed
      · cases failed
      · next cause unread =>
        cases failed
        exact unrelated_misfit (Value.failsOnly_first _ cause unread)

theorem unrelated_of_checkHeaders {map : ColumnMap} (sound : map.Sound) {title : Value}
    {headers : List String} {fault : Fault}
    (failed : (checkHeaders map title headers).mapError .layout = .error fault) :
    Unrelated fault := by
  obtain ⟨problem, checked, rfl⟩ := mapError_eq_error failed
  rcases checkHeaders_of_sound sound checked with rfl | ⟨missing, rfl⟩
  · exact unrelated_of_head? rfl Misfit.head?_ofList (by decide)
  · exact unrelated_of_head? rfl Misfit.head?_ofList (by decide)

/-- The faults that end a placement: those that its client raises, and unrelated ones. -/
def Ended (around : Surroundings σ) (access : Except Fault Client) (fault : Fault) : Prop :=
  Raises around access fault ∨ Unrelated fault

theorem fails_ofReading {α : Type} {result : Except Misfit α} {allowed : Fault → Prop}
    (reading : FailsOnly Misfit.Apart result) (related : ∀ {fault}, Unrelated fault → allowed fault) :
    (Script.ofMisfit result).Fails around allowed :=
  Script.fails_ofMisfit_of fun cause failed => related (unrelated_misfit (reading cause failed))

theorem appendRow_ends {client : Client} (map : ColumnMap) (title : Value)
    (headers : List String) :
    (appendRow client map config payload title headers).Fails around
      (Ended around (.ok client)) := by
  refine (fails_ofReading (failsOnly_buildRow payload map headers) .inr).bind fun row => ?_
  refine (fails_ofReading (failsOnly_columnLetters _) .inr).bind fun last => ?_
  refine (fails_ofReading (failsOnly_addressIn title _) .inr).bind fun range => ?_
  have appends : (client.append config.spreadsheetId range row).Fails around
      (Ended around (.ok client)) :=
    fun contexts world fault failed => .inl (.append failed)
  refine appends.bind fun reported => ?_
  exact (fails_ofReading (failsOnly_referenceOf reported) .inr).bind fun _ => Script.fails_ok _

/-- A placement with a registered map never ends for its identifier column. -/
theorem place_ends (reachable : registry.Reachable) :
    (place access registry config payload).Fails around (Ended around access) := by
  unfold place
  cases access with
  | error fault =>
    refine Script.ends_done fun raised same => ?_
    cases same
    exact .inl .absent
  | ok client =>
    have reads : ∀ range, (client.values config.spreadsheetId range).Fails around
        (Ended around (.ok client)) :=
      fun range contexts world fault failed => .inl (.values failed)
    have asks : (client.titles config.spreadsheetId).Fails around (Ended around (.ok client)) :=
      fun contexts world fault failed => .inl (.titles failed)
    rw [Script.ofFault_ok_bind]
    cases found : registry.find (.text config.columnMapVersion) with
    | error fault =>
      rw [Script.ofFault_error_bind]
      refine Script.ends_done fun raised same => ?_
      cases same
      exact .inr (unrelated_of_find found)
    | ok map =>
      have sound := reachable.sound (Registry.mem_of_find found)
      rw [Script.ofFault_ok_bind]
      refine asks.bind fun titles => ?_
      refine (Script.fails_ofFault fun _ failed => .inr (unrelated_of_pickTitle failed)).bind
        fun title => ?_
      refine (fails_ofReading (failsOnly_addressIn title _) .inr).bind fun headerRange => ?_
      refine (reads headerRange).bind fun rows => ?_
      refine (fails_ofReading (failsOnly_headersOf rows) .inr).bind fun headers => ?_
      refine (Script.fails_ofFault fun _ failed =>
        .inr (unrelated_of_checkHeaders sound failed)).bind fun identifier => ?_
      refine (fails_ofReading (failsOnly_addressIn title _) .inr).bind fun columnRange => ?_
      refine (reads columnRange).bind fun cells => ?_
      refine (fails_ofReading (failsOnly_existingRow cells _) .inr).bind fun existing => ?_
      cases existing with
      | some row => exact (Script.fails_write _).bind fun _ => Script.fails_ok _
      | none => exact appendRow_ends map title headers

theorem endsWith_outcomeOf {message : String} (member : message ∈ identifierMessages)
    {placement : Except Fault Placement} (ends : EndsWith message (outcomeOf placement)) :
    ∃ fault, placement = .error fault ∧ failureDetail fault = .text message := by
  rcases placement with fault | row | ⟨title, range, reference⟩
  · cases retry : fault.isRetryable with
    | ok retryable =>
      simp only [outcomeOf, retry] at ends
      exact ⟨fault, rfl, ends⟩
    | error cause =>
      simp only [outcomeOf, retry] at ends
      obtain ⟨words, _, rfl⟩ := Fault.isRetryable_eq_error_iff.mp retry
      have initial := head?_of_mem member
      rw [← ends] at initial
      exact absurd initial (Number.apart_integerMisfit words)
  · cases ends
    exact absurd member (by decide)
  · cases ends
    exact absurd member (by decide)

/-- A submission that ends with a message about the identifier column shows a fault of its client. -/
theorem submit_ends (reachable : registry.Reachable) {contexts : Log.Contexts} {world : World σ}
    {message : String} (member : message ∈ identifierMessages)
    (ends : EndsWith message ((submit access registry config payload).run around contexts world).1) :
    ∃ fault, Raises around access fault ∧ failureDetail fault = .text message := by
  rw [submit_result] at ends
  obtain ⟨fault, failed, shown⟩ := endsWith_outcomeOf member ends
  rcases place_ends reachable _ _ fault failed with raised | unrelated
  · exact ⟨fault, raised, shown⟩
  · exact absurd shown (unrelated message member)

end Placement

section Clients

variable {σ : Type} {around : Surroundings σ} {client : Client} {fault : Fault}

theorem Raises.of_calls {allowed : Fault → Prop} (raised : Raises around (.ok client) fault)
    (titles : ∀ spreadsheetId, (client.titles spreadsheetId).Fails around allowed)
    (values : ∀ spreadsheetId range, (client.values spreadsheetId range).Fails around allowed)
    (append : ∀ spreadsheetId range row,
      (client.append spreadsheetId range row).Fails around allowed) : allowed fault := by
  cases raised with
  | titles failed => exact titles _ _ _ fault failed
  | values failed => exact values _ _ _ _ fault failed
  | append failed => exact append _ _ _ _ _ fault failed

def Answers (around : Surroundings σ) : Prop :=
  ∀ request state, ∃ value, (around.sheet request state).1 = .ok value

theorem fails_askSheet (answers : Answers around) (request : SheetRequest) :
    (Script.askSheet request).Fails around Unrelated := by
  refine Script.ends_askSheet fun state fault failed => ?_
  obtain ⟨value, told⟩ := answers request state
  cases told.symm.trans failed

theorem fails_askDocument (answers : Answers around) (request : SheetRequest) :
    (Client.askDocument request).Fails around Unrelated := by
  refine Script.Ends.andThen (Script.ends_askSheet fun state => ?_)
  obtain ⟨document, told⟩ := answers request state
  rw [told]
  exact Script.fails_ok _

theorem failsOnly_entry (name : String) (document : Value) :
    FailsOnly Misfit.Apart (Client.entry name document) := by
  unfold Client.entry
  split
  · exact failsOnly_ok _
  · exact Misfit.failsOnly_apart nofun nofun

theorem failsOnly_titlesOf (document : Value) :
    FailsOnly Misfit.Apart (Client.titlesOf document) := by
  refine (failsOnly_entry "sheets" document).bind fun sheets => ?_
  refine (Value.failsOnly_iterate _).bind fun items => ?_
  refine FailsOnly.bind (failsOnly_mapM (fun sheet => ?_) items) fun titles => failsOnly_ok _
  exact (failsOnly_entry "properties" _).bind fun _ => failsOnly_entry "title" _

/-- On a service that answers, both clients only fail to read its answers. -/
theorem Raises.unrelated (answers : Answers around)
    (known : client = .plain ∨ client = .interface) (raised : Raises around (.ok client) fault) :
    Unrelated fault := by
  rcases known with rfl | rfl
  · exact raised.of_calls (fun _ => fails_askSheet answers _) (fun _ _ => fails_askSheet answers _)
      (fun _ _ _ => fails_askSheet answers _)
  · refine raised.of_calls (fun _ => ?_) (fun _ _ => ?_) (fun _ _ _ => ?_)
    · exact (fails_askDocument answers _).bind fun document =>
        fails_ofReading (failsOnly_titlesOf document) id
    · refine (fails_askDocument answers _).bind fun document => fails_ofReading ?_ id
      exact (failsOnly_entry "values" document).bind fun _ => failsOnly_ok _
    · refine (fails_askDocument answers _).bind fun document => ?_
      refine (fails_ofReading ?_ id).bind fun _ =>
        (Script.fails_write _).bind fun _ => Script.fails_ok _
      exact (failsOnly_entry "updates" document).bind fun _ => failsOnly_entry "updatedRange" _

end Clients

/-- Registered maps pass the check, which asks for no more than it says, and their lookups agree.
Hence no submission is refused for the identifier column: it ends with a message of that check only
when its client raises one, which the known clients never do on a service that answers. -/
theorem registered_maps_are_coherent {registry : Registry} (reachable : registry.Reachable) :
    (∀ map : ColumnMap, map.problem? = none ↔
      Text.trim map.version ≠ "" ∧ map.columns ≠ [] ∧ map.headers.Nodup ∧
        (map.columns.map Column.path).count identifierPath = 1) ∧
    (∀ map ∈ registry.maps, map.problem? = none ∧ map.Coherent) ∧
    (∀ (map : ColumnMap) (headers : List String) (problem : LayoutProblem),
      identifierHeader map headers = .error problem → problem.message ∈ identifierMessages) ∧
    (∀ (σ : Type) (around : Surroundings σ) (access : Except Fault Client) (config : SheetConfig)
      (payload : Payload) (contexts : Log.Contexts) (world : World σ), ∀ message ∈ identifierMessages,
        EndsWith message ((submit access registry config payload).run around contexts world).1 →
          ∃ fault, Raises around access fault ∧ failureDetail fault = .text message) ∧
    ∀ (σ : Type) (around : Surroundings σ) (client : Client) (config : SheetConfig)
      (payload : Payload) (contexts : Log.Contexts) (world : World σ), ∀ message ∈ identifierMessages,
        Answers around → client = .plain ∨ client = .interface →
          ¬ EndsWith message
            ((submit (.ok client) registry config payload).run around contexts world).1 := by
  refine ⟨fun map => ColumnMap.accepted_iff, fun map member => ?_,
    fun map headers problem => message_of_identifierHeader, ?_, ?_⟩
  · have sound := reachable.sound member
    exact ⟨(ColumnMap.problem?_eq_none_iff map).mpr sound, sound.coherent⟩
  · intro σ around access config payload contexts world message member ends
    exact submit_ends reachable member ends
  · intro σ around client config payload contexts world message member answers known ends
    obtain ⟨fault, raised, shown⟩ := submit_ends reachable member ends
    exact raised.unrelated answers known message member shown

/-- A tab without the identifier column lacks a header, and that is what the submission says. -/
theorem unheaded_tab_is_told :
    smallRegistry.Reachable ∧ smallMap ∈ smallRegistry.maps ∧ smallMap.Coherent ∧
    let ended := (((smallOrder "A-1").script smallRegistry).run (smallSurroundings .plain) []
      (World.fresh ⟨[⟨"Ledger", [[.text "Name"]]⟩]⟩ 0)).1
    EndsWith "Google Sheet mapping does not match sheet headers." ended ∧
      ∀ message ∈ identifierMessages, ¬ EndsWith message ended := by
  have registered := Registry.mem_of_get? smallMap_found
  have answers : Answers (smallSurroundings .plain) := fun request book => ⟨_, rfl⟩
  obtain ⟨_, coherent, _, _, never⟩ := registered_maps_are_coherent smallRegistry_reachable
  exact ⟨smallRegistry_reachable, registered, (coherent smallMap registered).2, rfl,
    fun message member => never _ _ .plain _ _ _ _ message member answers (.inl rfl)⟩

end LoanDispatch.Ledger
