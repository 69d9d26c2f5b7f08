import LoanDispatch.Payload.Reader
import LoanDispatch.Proofs.Result.Steps

/-!
Payloads whose fields have their kinds, and their serialised forms.  Identifiers and names are texts,
metadata are mappings, and the time of submission is a moment.
-/

set_option autoImplicit false

namespace LoanDispatch

def Value.IsOptionalText (value : Value) : Prop := value = .null ∨ ∃ words, value = .text words

namespace Application

structure WellTyped (application : Application) : Prop where
  id : ∃ words, application.id = .text words
  name : ∃ words, application.name = .text words
  ownerUserId : application.ownerUserId.IsOptionalText
  metadata : ∃ entries, application.metadata = .map entries
  productType : ∃ words, application.productType = .text words
  lenderId : application.lenderId.IsOptionalText
  lenderProductId : application.lenderProductId.IsOptionalText
  requestedAmount : application.requestedAmount = .null ∨
    (∃ number, application.requestedAmount = .int number) ∨
    ∃ number, application.requestedAmount = .float number

/-- The fields of a serialised application. -/
def entries (application : Application) : List (String × Value) :=
  [("id", application.id), ("owner_user_id", application.ownerUserId), ("name", application.name),
   ("metadata", application.metadata), ("product_type", application.productType),
   ("lender_id", application.lenderId), ("lender_product_id", application.lenderProductId),
   ("requested_amount", application.requestedAmount)]

theorem toDictionary_toValue {application : Application}
    (mapped : ∃ entries, application.metadata = .map entries) :
    application.toValue.toDictionary = .ok (.map application.entries) := by
  obtain ⟨given, metadata⟩ := mapped
  rw [entries, toValue, fields, metadata]
  rfl

end Application

namespace Document

structure WellTyped (document : Document) : Prop where
  documentId : ∃ words, document.documentId = .text words
  documentType : ∃ words, document.documentType = .text words
  title : ∃ words, document.title = .text words
  versionId : ∃ words, document.versionId = .text words
  version : ∃ number, document.version = .int number
  metadata : ∃ entries, document.metadata = .map entries
  content : ∃ words, document.content = .text words

/-- The fields of a serialised document, which are its own. -/
theorem toDictionary_toValue {document : Document}
    (mapped : ∃ entries, document.metadata = .map entries) :
    document.toValue.toDictionary = .ok (.map document.fields) := by
  obtain ⟨given, metadata⟩ := mapped
  rw [toValue, fields, metadata]
  rfl

theorem dictionaries_toValue {documents : List Document}
    (mapped : ∀ document ∈ documents, ∃ entries, document.metadata = .map entries) :
    Value.dictionaries (documents.map toValue)
      = .ok (documents.map fun document => .map document.fields) := by
  induction documents with
  | nil => rfl
  | cons document rest ih =>
    obtain ⟨own, others⟩ := List.forall_mem_cons.mp mapped
    rw [List.map_cons, Value.dictionaries, toDictionary_toValue own, ih others]
    rfl

end Document

namespace Payload

structure WellTyped (payload : Payload) : Prop where
  application : payload.application.WellTyped
  documents : ∀ document ∈ payload.documents, document.WellTyped
  submittedAt : ∃ moment, payload.submittedAt = .dateTime moment

/-- The fields of a serialised payload with the text of its time of submission. -/
def entries (payload : Payload) (stamp : String) : List (String × Value) :=
  [("application", .map payload.application.entries),
   ("documents", .list (payload.documents.map fun document => .map document.fields)),
   ("submitted_at", .text stamp)]

/-- A payload has a serialised form when its metadata are mappings and its time is a moment. -/
theorem toDictionary_eq {payload : Payload} {moment : Calendar.DateTime}
    (application : ∃ entries, payload.application.metadata = .map entries)
    (documents : ∀ document ∈ payload.documents, ∃ entries, document.metadata = .map entries)
    (submitted : payload.submittedAt = .dateTime moment) :
    payload.toDictionary = .ok (.map (payload.entries moment.isoText)) := by
  have items : (Value.tuple (payload.documents.map Document.toValue)).itemDictionaries
      = .ok (payload.documents.map fun document => .map document.fields) :=
    Document.dictionaries_toValue documents
  have parts : Value.dictionaryFields .payload payload.fields
      = .ok (payload.entries moment.isoText) := by
    have root : RecordKind.payload.fieldForm "application" = .record := rfl
    have rows : RecordKind.payload.fieldForm "documents" = .records := rfl
    have stamp : RecordKind.payload.fieldForm "submitted_at" = .moment := rfl
    simp only [fields, Value.dictionaryFields, root, rows, stamp,
      Application.toDictionary_toValue application, items, submitted]
    rfl
  rw [toDictionary, toValue, Value.toDictionary]
  simp only [RecordKind.dictionaryLayout?, parts]
  rfl

/-- A payload with one document, submitted at a moment. -/
def small (moment : Calendar.DateTime) : Payload where
  application :=
    ⟨.text "A-1", .text "Acme", .null, .map [("income", .int 1200)], .text "term", .null, .null,
      .int 5000⟩
  documents := [⟨.text "d1", .text "bank", .text "Statement", .text "v1", .int 3, .map [], .text ""⟩]
  submittedAt := .dateTime moment

theorem small_wellTyped (moment : Calendar.DateTime) : (small moment).WellTyped where
  application :=
    ⟨⟨_, rfl⟩, ⟨_, rfl⟩, .inl rfl, ⟨_, rfl⟩, ⟨_, rfl⟩, .inl rfl, .inl rfl, .inr (.inl ⟨_, rfl⟩)⟩
  documents document member := by
    obtain rfl := List.mem_singleton.mp member
    exact ⟨⟨_, rfl⟩, ⟨_, rfl⟩, ⟨_, rfl⟩, ⟨_, rfl⟩, ⟨_, rfl⟩, ⟨_, rfl⟩, ⟨_, rfl⟩⟩
  submittedAt := ⟨moment, rfl⟩

/-- Half past noon on the first of March 2024, at an offset from universal time. -/
def smallMoment (offset : Calendar.Offset) : Calendar.DateTime :=
  ⟨(Calendar.Date.ofParts? 2024 3 1).get (by decide),
    (Calendar.Clock.ofParts? 12 30 0 0).get (by decide), some offset⟩

end Payload

end LoanDispatch
