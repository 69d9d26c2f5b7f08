import LoanDispatch.Proofs.Calendar.Stamp
import LoanDispatch.Proofs.Payload.Typing

/-!
Payloads that are serialised and read again.  A payload that has been read is settled: its texts,
versions and mappings are what reading makes of them, so that reading its serialised form gives it
back.  Only the time of submission can change, and only when its offset is less than a second.
-/

set_option autoImplicit false

namespace LoanDispatch

open Calendar

section Stamp

theorem Text.replaceChar_of_notMem {target : Char} {image : List Char} {s : String}
    (absent : target ∉ s.toList) : Text.replaceChar target image s = s := by
  have kept : ∀ c ∈ s.toList, (if c = target then image else [c]) = [c] := by
    intro c member
    refine if_neg fun same => absent ?_
    rwa [← same]
  rw [Text.replaceChar, List.flatMap_congr kept, List.flatMap_singleton', String.ofList_toList]

/-- No text of a moment has the letter of universal time, so the text is read as it stands. -/
theorem readStamp_isoText (moment : DateTime) : readStamp moment.isoText = .ok moment.kept := by
  have plain : 'Z' ∉ moment.isoText.toList := moment.spells_isoText.notMem rfl (by decide)
  rw [readStamp, Text.replaceChar_of_notMem plain, DateTime.read?_isoText]

theorem not_fine_of_readStamp {words : String} {moment : DateTime}
    (read : readStamp words = .ok moment) : ¬ moment.FineOffset := by
  simp only [readStamp] at read
  split at read
  · next read? =>
    cases read
    exact DateTime.not_fine_of_read? read?
  · cases read

/-- A time of submission that can be read: none, a text or a moment. -/
def Value.IsStamp (value : Value) : Prop :=
  value = .null ∨ value.isText = true ∨ ∃ moment, value = .dateTime moment

theorem moment_of_stampOf {now : DateTime} {value stamp : Value} (stamped : value.IsStamp)
    (read : stampOf now value = .ok stamp) : ∃ moment, stamp = .dateTime moment := by
  rcases stamped with rfl | text | ⟨moment, rfl⟩
  · cases read
    exact ⟨now, rfl⟩
  · obtain ⟨words, shown⟩ := Option.isSome_iff_exists.mp text
    rw [stampOf, shown] at read
    obtain ⟨moment, _, rfl⟩ := Result.map_eq_ok read
    exact ⟨moment, rfl⟩
  · cases read
    exact ⟨moment, rfl⟩

end Stamp

section Fields

namespace Value

theorem orElse_orElse (value replacement : Value) :
    (value.orElse replacement).orElse replacement = value.orElse replacement := by
  unfold orElse
  split
  · rfl
  · split <;> rfl

theorem orElse_text (words : String) : (text words).orElse (.text "") = .text words := by
  rw [orElse]
  split
  · rfl
  · next empty =>
    have blank : words = "" := by simpa [isGiven] using empty
    rw [blank]

theorem toInteger_orElse (number : Int) :
    ((int number).orElse (.int 0)).toInteger = .ok number := by
  rw [orElse]
  split
  · rfl
  · next zero =>
    have none : number = 0 := by simpa [isGiven] using zero
    rw [none]
    rfl

theorem asEntries_orElse (entries : List (String × Value)) :
    ((map entries).orElse (.map [])).asEntries = .ok entries := by
  cases entries <;> rfl

end Value

/-- The fields of an application are what reading makes of them. -/
structure Application.Settled (application : Application) : Prop where
  id : ∃ words, application.id = .text words
  name : application.name.orElse (.text "") = application.name
  productType : application.productType.orElse (.text "") = application.productType
  metadata : ∃ entries, application.metadata = .map entries

namespace Application

theorem WellTyped.settled {application : Application} (typed : application.WellTyped) :
    application.Settled := by
  obtain ⟨name, named⟩ := typed.name
  obtain ⟨product, kept⟩ := typed.productType
  exact ⟨typed.id, named ▸ Value.orElse_text name, kept ▸ Value.orElse_text product, typed.metadata⟩

theorem settled_of_ofValue {value : Value} {application : Application}
    (read : ofValue value = .ok application) : application.Settled := by
  obtain ⟨given, _, read⟩ := Result.bind_eq_ok read
  obtain ⟨id, _, read⟩ := Result.bind_eq_ok read
  obtain ⟨entries, _, read⟩ := Result.bind_eq_ok read
  obtain ⟨metadata, _, read⟩ := Result.bind_eq_ok read
  cases read
  exact ⟨⟨_, rfl⟩, Value.orElse_orElse _ _, Value.orElse_orElse _ _, ⟨_, rfl⟩⟩

theorem ofValue_entries {application : Application} (settled : application.Settled) :
    ofValue (.map application.entries) = .ok application := by
  obtain ⟨id, identified⟩ := settled.id
  obtain ⟨given, mapped⟩ := settled.metadata
  have name := settled.name
  have product := settled.productType
  obtain ⟨_, _, _, _, _, _, _, _⟩ := application
  obtain rfl := identified
  obtain rfl := mapped
  simp only [ofValue, entries, Value.entryAt, Value.namedEntries, Value.getD, Entries.lookup,
    String.reduceEq, ↓reduceIte, bind, Except.bind, Option.getD_some, Value.printed_text,
    Value.asEntries_orElse, name, product]
  rfl

end Application

structure Document.Settled (document : Document) : Prop where
  documentId : ∃ words, document.documentId = .text words
  documentType : document.documentType.orElse (.text "") = document.documentType
  title : document.title.orElse (.text "") = document.title
  versionId : ∃ words, document.versionId = .text words
  version : ∃ number, document.version = .int number
  metadata : ∃ entries, document.metadata = .map entries
  content : document.content.orElse (.text "") = document.content

namespace Document

theorem WellTyped.settled {document : Document} (typed : document.WellTyped) :
    document.Settled := by
  obtain ⟨kind, named⟩ := typed.documentType
  obtain ⟨title, titled⟩ := typed.title
  obtain ⟨content, filled⟩ := typed.content
  exact ⟨typed.documentId, named ▸ Value.orElse_text kind, titled ▸ Value.orElse_text title,
    typed.versionId, typed.version, typed.metadata, filled ▸ Value.orElse_text content⟩

theorem settled_of_ofValue {value : Value} {document : Document}
    (read : ofValue value = .ok document) : document.Settled := by
  obtain ⟨given, _, read⟩ := Result.bind_eq_ok read
  obtain ⟨id, _, read⟩ := Result.bind_eq_ok read
  obtain ⟨entries, _, read⟩ := Result.bind_eq_ok read
  obtain ⟨edition, _, read⟩ := Result.bind_eq_ok read
  obtain ⟨version, _, read⟩ := Result.bind_eq_ok read
  obtain ⟨metadata, _, read⟩ := Result.bind_eq_ok read
  cases read
  exact ⟨⟨_, rfl⟩, Value.orElse_orElse _ _, Value.orElse_orElse _ _, ⟨_, rfl⟩, ⟨_, rfl⟩, ⟨_, rfl⟩,
    Value.orElse_orElse _ _⟩

theorem ofValue_fields {document : Document} (settled : document.Settled) :
    ofValue (.map document.fields) = .ok document := by
  obtain ⟨id, identified⟩ := settled.documentId
  obtain ⟨edition, numbered⟩ := settled.versionId
  obtain ⟨number, counted⟩ := settled.version
  obtain ⟨given, mapped⟩ := settled.metadata
  have kind := settled.documentType
  have title := settled.title
  have content := settled.content
  obtain ⟨_, _, _, _, _, _, _⟩ := document
  obtain rfl := identified
  obtain rfl := numbered
  obtain rfl := counted
  obtain rfl := mapped
  simp only [ofValue, fields, Value.entryAt, Value.namedEntries, Value.getD, Entries.lookup,
    String.reduceEq, ↓reduceIte, bind, Except.bind, Option.getD_some, Value.asEntries_orElse,
    Value.toInteger_orElse, Value.orElse_text, Value.printed_text, kind, title, content]
  rfl

end Document

end Fields

namespace Payload

structure Settled (payload : Payload) : Prop where
  application : payload.application.Settled
  documents : ∀ document ∈ payload.documents, document.Settled

theorem WellTyped.settled {payload : Payload} (typed : payload.WellTyped) : payload.Settled :=
  ⟨typed.application.settled, fun document member => (typed.documents document member).settled⟩

theorem settled_of_ofValue {now : DateTime} {value : Value} {payload : Payload}
    (read : ofValue now value = .ok payload) : payload.Settled := by
  obtain ⟨entries, _, read⟩ := Result.bind_eq_ok read
  obtain ⟨stamp, _, read⟩ := Result.bind_eq_ok read
  obtain ⟨application, root, read⟩ := Result.bind_eq_ok read
  obtain ⟨items, _, read⟩ := Result.bind_eq_ok read
  obtain ⟨documents, rows, read⟩ := Result.bind_eq_ok read
  cases read
  refine ⟨Application.settled_of_ofValue root, fun document member => ?_⟩
  obtain ⟨item, _, taken⟩ := Result.exists_of_mem_mapM rows member
  exact Document.settled_of_ofValue taken

theorem stamp_of_ofValue {now : DateTime} {entries : List (String × Value)} {payload : Payload}
    (read : ofValue now (.map entries) = .ok payload) :
    stampOf now (Value.getD "submitted_at" entries) = .ok payload.submittedAt := by
  obtain ⟨given, named, read⟩ := Result.bind_eq_ok read
  obtain ⟨stamp, stamped, read⟩ := Result.bind_eq_ok read
  obtain ⟨application, _, read⟩ := Result.bind_eq_ok read
  obtain ⟨items, _, read⟩ := Result.bind_eq_ok read
  obtain ⟨documents, _, read⟩ := Result.bind_eq_ok read
  cases read
  cases named
  exact stamped

theorem ofValue_entries {payload : Payload} (settled : payload.Settled) (now moment : DateTime) :
    ofValue now (.map (payload.entries moment.isoText))
      = .ok { payload with submittedAt := .dateTime moment.kept } := by
  have rows : (payload.documents.map fun document => Value.map document.fields).mapM
      Document.ofValue = .ok payload.documents := by
    rw [Result.mapM_eq_ok_iff, List.forall₂_map_left_iff, List.forall₂_same]
    exact fun document member => Document.ofValue_fields (settled.documents document member)
  have items : ((Value.list (payload.documents.map fun document => .map document.fields)).orElse
      (.list [])).iterate = .ok (payload.documents.map fun document => .map document.fields) := by
    cases payload.documents <;> rfl
  have root : ((Value.map payload.application.entries).orElse (.map []))
      = .map payload.application.entries := rfl
  have stamp : stampOf now (.text moment.isoText) = .ok (.dateTime moment.kept) := by
    rw [stampOf]
    simp only [Value.text?, readStamp_isoText]
    rfl
  simp only [ofValue, entries, Value.namedEntries, Value.getD, Entries.lookup, String.reduceEq,
    ↓reduceIte, bind, Except.bind, Option.getD_some, stamp, root,
    Application.ofValue_entries settled.application, items, rows]
  rfl

/-- A settled payload of a moment is serialised, and what is read from that is the payload but for
an offset of less than a second. -/
theorem Settled.returns {payload : Payload} {moment : DateTime} (settled : payload.Settled)
    (submitted : payload.submittedAt = .dateTime moment) (later : DateTime) :
    ∃ dictionary, payload.toDictionary = .ok dictionary ∧
      ofValue later dictionary = .ok { payload with submittedAt := .dateTime moment.kept } ∧
      (ofValue later dictionary = .ok payload ↔ ¬ moment.FineOffset) := by
  have read := ofValue_entries settled later moment
  refine ⟨_, toDictionary_eq settled.application.metadata
    (fun document member => (settled.documents document member).metadata) submitted, read, ?_⟩
  rw [read, ← DateTime.kept_eq_self_iff]
  constructor
  · intro same
    have stamps := congrArg submittedAt (Except.ok.inj same)
    exact Value.dateTime.inj (stamps.trans submitted)
  · intro same
    rw [same, ← submitted]

/-- A payload whose fields have their kinds, and every payload that is read with a time of submission
that is a moment, a text or missing, has a serialised form, from which it comes back; only an offset
of less than a second is lost, which no text of a time has. -/
theorem serialised_payload_returns (payload : Payload) (now later : DateTime)
    (origin : payload.WellTyped ∨ ∃ entries, ofValue now (.map entries) = .ok payload ∧
      (Value.getD "submitted_at" entries).IsStamp) :
    ∃ dictionary moment, payload.toDictionary = .ok dictionary ∧
      payload.submittedAt = .dateTime moment ∧
      ofValue later dictionary = .ok { payload with submittedAt := .dateTime moment.kept } ∧
      (ofValue later dictionary = .ok payload ↔ ¬ moment.FineOffset) ∧
      ∀ entries, ofValue now (.map entries) = .ok payload →
        (Value.getD "submitted_at" entries).isText = true → ¬ moment.FineOffset := by
  obtain ⟨settled, moment, submitted⟩ :
      payload.Settled ∧ ∃ moment, payload.submittedAt = .dateTime moment := by
    rcases origin with typed | ⟨entries, read, stamped⟩
    · exact ⟨typed.settled, typed.submittedAt⟩
    · exact ⟨settled_of_ofValue read, moment_of_stampOf stamped (stamp_of_ofValue read)⟩
  obtain ⟨dictionary, serialised, returned, exactly⟩ := settled.returns submitted later
  refine ⟨dictionary, moment, serialised, submitted, returned, exactly, fun entries read text => ?_⟩
  obtain ⟨words, shown⟩ := Option.isSome_iff_exists.mp text
  have stamped := stamp_of_ofValue read
  rw [stampOf, shown, submitted] at stamped
  obtain ⟨own, told, same⟩ := Result.map_eq_ok stamped
  cases same
  exact not_fine_of_readStamp told

/-- An offset with a fraction of a second beside whole ones is kept. -/
theorem ragged_offset_returns :
    let moment := smallMoment ⟨-19800500000, by decide, by decide⟩
    ∃ dictionary, (small moment).toDictionary = .ok dictionary ∧
      ofValue (smallMoment .utc) dictionary = .ok (small moment) := by
  intro moment
  obtain ⟨dictionary, own, serialised, submitted, _, returns, _⟩ :=
    serialised_payload_returns (small moment) (smallMoment .utc) (smallMoment .utc)
      (.inl (small_wellTyped moment))
  cases submitted
  refine ⟨dictionary, serialised, returns.mpr fun fine => ?_⟩
  obtain ⟨offset, given, _, small⟩ := fine
  cases given
  exact absurd small (by decide)

theorem instant_offset_lost :
    let moment := smallMoment ⟨1, by decide, by decide⟩
    (small moment).WellTyped ∧
      ∃ dictionary, (small moment).toDictionary = .ok dictionary ∧
        ∀ later, ofValue later dictionary ≠ .ok (small moment) := by
  intro moment
  have typed := small_wellTyped moment
  have fine : moment.FineOffset := ⟨_, rfl, by decide, by decide⟩
  obtain ⟨dictionary, serialised, _⟩ := typed.settled.returns rfl moment
  refine ⟨typed, dictionary, serialised, fun later same => ?_⟩
  obtain ⟨other, told, _, returns⟩ := typed.settled.returns rfl later
  cases serialised.symm.trans told
  exact returns.mp same fine

end Payload

end LoanDispatch
