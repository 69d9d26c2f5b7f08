import LoanDispatch.Cell
import LoanDispatch.Ledger.Layout
import LoanDispatch.Proofs.Payload.Typing

/-!
Payloads as values and in serialised form.  Whatever a path leads to inside the one is mirrored by
what it leads to inside the other: the same value, a snapshot by its serialised form, the documents
by a list, the time of submission by its text.  Mirrored values have the same cell.
-/

set_option autoImplicit false

namespace LoanDispatch

theorem Application.getD_entries (application : Application) (name : String) :
    Value.getD name application.fields = Value.getD name application.entries := by
  have perm : application.fields.Perm application.entries := (List.Perm.swap ..).cons _
  exact congrArg (Option.getD · .null) (Entries.lookup_perm perm (by simp [fields]) name)

section Json

namespace Value

/-- The document of a field in its serialised form. -/
def formJson (form : RecordKind.FieldForm) (value : Value) : Except Misfit Json :=
  match form with
  | .mapping => (mappingJson value).map .object
  | .moment => value.isoText.map .text
  | _ => value.toJson (.describe false)

theorem fieldsJson_cons (kind : RecordKind) (name : String) (value : Value)
    (rest : List (String × Value)) :
    fieldsJson kind ((name, value) :: rest) = (do
      let first ← formJson (kind.fieldForm name) value
      let others ← fieldsJson kind rest
      return (name, first) :: others) := by
  rw [fieldsJson]
  cases kind.fieldForm name <;> rfl

theorem fieldsJson_eq {kind : RecordKind} {fields entries : List (String × Value)}
    (alike : List.Forall₂ (fun field entry => field.1 = entry.1 ∧
      formJson (kind.fieldForm field.1) field.2 = entry.2.toJson (.describe false)) fields entries) :
    fieldsJson kind fields = entriesJson (.describe false) entries := by
  induction alike with
  | nil => rfl
  | @cons field entry fields entries head tail ih =>
    obtain ⟨name, value⟩ := field
    obtain ⟨key, image⟩ := entry
    obtain ⟨rfl, same⟩ := head
    rw [fieldsJson_cons, entriesJson, ih]
    exact congrArg (· >>= _) same

theorem map_toJson (policy : ForeignPolicy) (entries : List (String × Value)) :
    (Value.map entries).toJson policy = (entriesJson policy entries).map .object := by
  rw [toJson]

/-- A record that has a serialised form is written as its fields in the order of the layout. -/
theorem record_toJson {kind : RecordKind} {layout : List (String × String × RecordKind.FieldForm)}
    {fields : List (String × Value)} {dictionary : Value}
    (laidOut : kind.dictionaryLayout? = some layout)
    (serialised : toDictionary (.record kind fields) = .ok dictionary) :
    (Value.record kind fields).toJson (.describe false)
      = (fieldsJson kind fields).map fun parts => .object (RecordKind.arrange layout parts) := by
  simp only [toJson, laidOut, serialised]

theorem IsOptionalText.toJson_ok {value : Value} (text : value.IsOptionalText)
    (policy : ForeignPolicy) : ∃ document, value.toJson policy = .ok document := by
  rcases text with rfl | ⟨words, rfl⟩
  · exact ⟨.null, rfl⟩
  · exact ⟨.text words, rfl⟩

end Value

theorem Application.fieldsJson_fields {application : Application}
    (mapped : ∃ entries, application.metadata = .map entries) :
    Value.fieldsJson .application application.fields
      = Value.entriesJson (.describe false) application.fields := by
  obtain ⟨given, metadata⟩ := mapped
  refine Value.fieldsJson_eq ?_
  rw [fields, metadata]
  exact .cons ⟨rfl, rfl⟩ (.cons ⟨rfl, rfl⟩ (.cons ⟨rfl, rfl⟩ (.cons ⟨rfl, rfl⟩ (.cons ⟨rfl, rfl⟩
    (.cons ⟨rfl, rfl⟩ (.cons ⟨rfl, rfl⟩ (.cons ⟨rfl, rfl⟩ .nil)))))))

theorem Application.toJson_toValue {application : Application} (typed : application.WellTyped) :
    application.toValue.toJson (.describe false)
      = (Value.map application.entries).toJson (.describe false) := by
  have serialised := toDictionary_toValue typed.metadata
  obtain ⟨id, identified⟩ := typed.id
  obtain ⟨name, named⟩ := typed.name
  obtain ⟨given, mapped⟩ := typed.metadata
  obtain ⟨product, kept⟩ := typed.productType
  obtain ⟨owner, owned⟩ := typed.ownerUserId.toJson_ok (.describe false)
  obtain ⟨lender, lent⟩ := typed.lenderId.toJson_ok (.describe false)
  obtain ⟨offer, offered⟩ := typed.lenderProductId.toJson_ok (.describe false)
  -- The fields that can keep a record from being written stand in one order in both forms.
  have own : Value.entriesJson (.describe false) application.fields = (do
      let metadata ← (Value.map given).toJson (.describe false)
      let amount ← application.requestedAmount.toJson (.describe false)
      return [("id", .text id), ("name", .text name), ("owner_user_id", owner),
        ("metadata", metadata), ("product_type", .text product), ("lender_id", lender),
        ("lender_product_id", offer), ("requested_amount", amount)]) := by
    simp only [fields, identified, named, mapped, kept, Value.entriesJson, Value.toJson, owned, lent,
      offered]
    cases Value.entriesJson (.describe false) given <;>
      cases application.requestedAmount.toJson (.describe false) <;> rfl
  have written : Value.entriesJson (.describe false) application.entries = (do
      let metadata ← (Value.map given).toJson (.describe false)
      let amount ← application.requestedAmount.toJson (.describe false)
      return [("id", .text id), ("owner_user_id", owner), ("name", .text name),
        ("metadata", metadata), ("product_type", .text product), ("lender_id", lender),
        ("lender_product_id", offer), ("requested_amount", amount)]) := by
    simp only [entries, identified, named, mapped, kept, Value.entriesJson, Value.toJson, owned, lent,
      offered]
    cases Value.entriesJson (.describe false) given <;>
      cases application.requestedAmount.toJson (.describe false) <;> rfl
  rw [toValue] at serialised ⊢
  rw [Value.record_toJson rfl serialised, fieldsJson_fields typed.metadata, own, Value.map_toJson,
    Value.map_toJson, written, Value.map_toJson]
  cases Value.entriesJson (.describe false) given <;>
    cases application.requestedAmount.toJson (.describe false) <;> rfl

theorem Document.fieldsJson_fields {document : Document}
    (mapped : ∃ entries, document.metadata = .map entries) :
    Value.fieldsJson .document document.fields
      = Value.entriesJson (.describe false) document.fields := by
  obtain ⟨given, metadata⟩ := mapped
  refine Value.fieldsJson_eq ?_
  rw [fields, metadata]
  exact .cons ⟨rfl, rfl⟩ (.cons ⟨rfl, rfl⟩ (.cons ⟨rfl, rfl⟩ (.cons ⟨rfl, rfl⟩ (.cons ⟨rfl, rfl⟩
    (.cons ⟨rfl, rfl⟩ (.cons ⟨rfl, rfl⟩ .nil))))))

theorem Document.toJson_toValue {document : Document} (typed : document.WellTyped) :
    document.toValue.toJson (.describe false)
      = (Value.map document.fields).toJson (.describe false) := by
  have serialised := toDictionary_toValue typed.metadata
  obtain ⟨documentId, identified⟩ := typed.documentId
  obtain ⟨kind, named⟩ := typed.documentType
  obtain ⟨title, titled⟩ := typed.title
  obtain ⟨edition, numbered⟩ := typed.versionId
  obtain ⟨given, mapped⟩ := typed.metadata
  obtain ⟨content, filled⟩ := typed.content
  have cells : Value.entriesJson (.describe false) document.fields = (do
      let version ← document.version.toJson (.describe false)
      let metadata ← (Value.map given).toJson (.describe false)
      return [("document_id", .text documentId), ("document_type", .text kind),
        ("title", .text title), ("version_id", .text edition), ("version", version),
        ("metadata", metadata), ("content", .text content)]) := by
    simp only [fields, identified, named, titled, numbered, mapped, filled, Value.entriesJson,
      Value.toJson]
    cases document.version.toJson (.describe false) <;>
      cases Value.entriesJson (.describe false) given <;> rfl
  rw [toValue] at serialised ⊢
  rw [Value.record_toJson rfl serialised, fieldsJson_fields typed.metadata, Value.map_toJson, cells,
    Value.map_toJson]
  cases document.version.toJson (.describe false) <;>
    cases Value.entriesJson (.describe false) given <;> rfl

theorem Document.itemsJson_toValue {documents : List Document}
    (typed : ∀ document ∈ documents, document.WellTyped) :
    Value.itemsJson (.describe false) (documents.map toValue)
      = Value.itemsJson (.describe false)
          (documents.map fun document => .map document.fields) := by
  induction documents with
  | nil => rfl
  | cons document rest ih =>
    obtain ⟨own, others⟩ := List.forall_mem_cons.mp typed
    rw [List.map_cons, List.map_cons, Value.itemsJson, Value.itemsJson, toJson_toValue own,
      ih others]

theorem Payload.toJson_toValue {payload : Payload} (typed : payload.WellTyped)
    {moment : Calendar.DateTime} (submitted : payload.submittedAt = .dateTime moment) :
    payload.toValue.toJson (.describe false)
      = (Value.map (payload.entries moment.isoText)).toJson (.describe false) := by
  have serialised := toDictionary_eq typed.application.metadata
    (fun document member => (typed.documents document member).metadata) submitted
  have rows : (Value.tuple (payload.documents.map Document.toValue)).toJson (.describe false)
      = (Value.list (payload.documents.map fun document => .map document.fields)).toJson
          (.describe false) := by
    rw [Value.toJson, Value.toJson, Document.itemsJson_toValue typed.documents]
  have parts : Value.fieldsJson .payload payload.fields
      = Value.entriesJson (.describe false) (payload.entries moment.isoText) := by
    refine Value.fieldsJson_eq ?_
    rw [fields, submitted]
    exact .cons ⟨rfl, Application.toJson_toValue typed.application⟩
      (.cons ⟨rfl, rows⟩ (.cons ⟨rfl, rfl⟩ .nil))
  rw [toDictionary, toValue] at serialised
  rw [toValue, Value.record_toJson rfl serialised, parts]
  simp only [Value.toJson, entries, Value.entriesJson]
  cases Value.entriesJson (.describe false) payload.application.entries with
  | error misfit => rfl
  | ok root =>
    cases Value.itemsJson (.describe false)
        (payload.documents.map fun document => .map document.fields) <;> rfl

end Json

section Mirror

/-- A value inside a payload, and what stands in its place inside the serialised form. -/
inductive Mirrors : Value → Value → Prop where
  | same (value : Value) : Mirrors value value
  | application {application : Application} :
      application.WellTyped → Mirrors application.toValue (.map application.entries)
  | document {document : Document} :
      document.WellTyped → Mirrors document.toValue (.map document.fields)
  | documents {documents : List Document} :
      (∀ document ∈ documents, document.WellTyped) →
        Mirrors (.tuple (documents.map Document.toValue))
          (.list (documents.map fun document => .map document.fields))
  | moment (moment : Calendar.DateTime) : Mirrors (.dateTime moment) (.text moment.isoText)
  | payload {payload : Payload} {moment : Calendar.DateTime} :
      payload.WellTyped → payload.submittedAt = .dateTime moment →
        Mirrors payload.toValue (.map (payload.entries moment.isoText))

/-- Both results mirror each other, or both are the same misfit. -/
inductive MirrorResults : Except Misfit Value → Except Misfit Value → Prop where
  | ok {object image : Value} : Mirrors object image → MirrorResults (.ok object) (.ok image)
  | error (cause : Misfit) : MirrorResults (.error cause) (.error cause)

theorem MirrorResults.refl (result : Except Misfit Value) : MirrorResults result result := by
  cases result with
  | ok value => exact .ok (.same value)
  | error cause => exact .error cause

namespace Mirrors

variable {object image : Value}

theorem isNull_eq (mirrors : Mirrors object image) : object.isNull = image.isNull := by
  cases mirrors <;> rfl

theorem toJson_eq (mirrors : Mirrors object image) :
    object.toJson (.describe false) = image.toJson (.describe false) := by
  cases mirrors with
  | same value => rfl
  | application typed => exact Application.toJson_toValue typed
  | document typed => exact Document.toJson_toValue typed
  | documents typed =>
    rw [Value.toJson, Value.toJson, Document.itemsJson_toValue typed]
  | moment moment => rfl
  | payload typed submitted => exact Payload.toJson_toValue typed submitted

theorem toCell_eq (mirrors : Mirrors object image) : object.toCell = image.toCell := by
  have documents := mirrors.toJson_eq
  cases mirrors with
  | same value => rfl
  | moment moment => rfl
  | _ => exact congrArg (Except.map _) documents

theorem getD_payload {payload : Payload} {moment : Calendar.DateTime} (typed : payload.WellTyped)
    (submitted : payload.submittedAt = .dateTime moment) (name : String) :
    Mirrors (Value.getD name payload.fields) (Value.getD name (payload.entries moment.isoText)) := by
  simp only [Value.getD, Payload.fields, Payload.entries, Entries.lookup, submitted]
  split
  · exact .application typed.application
  · split
    · exact .documents typed.documents
    · split
      · exact .moment moment
      · exact .same .null

theorem itemAt_documents {documents : List Document}
    (typed : ∀ document ∈ documents, document.WellTyped) (segment : String) :
    MirrorResults (FieldPath.itemAt (documents.map Document.toValue) segment)
      (FieldPath.itemAt (documents.map fun document => .map document.fields) segment) := by
  unfold FieldPath.itemAt
  split
  · cases Number.readInteger segment with
    | error cause => exact .error cause
    | ok index =>
      refine .ok ?_
      simp only [List.getElem?_map]
      cases found : documents[index.toNat]? with
      | none => exact .same .null
      | some document => exact .document (typed document (List.mem_of_getElem? found))
  · exact .refl _

/-- One level down, mirrored values lead to mirrored values. -/
theorem step (mirrors : Mirrors object image) (segment : String) :
    MirrorResults (FieldPath.step object segment) (FieldPath.step image segment) := by
  unfold FieldPath.step
  split
  · exact .ok mirrors
  · cases mirrors with
    | same value => exact .refl _
    | @application application typed =>
      -- The fields stand in another order than the entries, which a lookup by name cannot see.
      show MirrorResults (.ok (Value.getD segment application.fields)) _
      rw [application.getD_entries]
      exact .refl _
    | document typed => exact .refl _
    | documents typed => exact itemAt_documents typed segment
    | moment moment => exact .ok (.same .null)
    | payload typed submitted => exact .ok (getD_payload typed submitted segment)

/-- Down any path, mirrored values lead to mirrored values. -/
theorem walk (mirrors : Mirrors object image) (segments : List String) :
    MirrorResults (FieldPath.walk object segments) (FieldPath.walk image segments) := by
  induction segments generalizing object image with
  | nil => exact .ok mirrors
  | cons segment rest ih =>
    rw [FieldPath.walk, FieldPath.walk, mirrors.isNull_eq]
    split
    · exact .refl _
    · have stepped := mirrors.step segment
      generalize FieldPath.step object segment = one, FieldPath.step image segment = two
        at stepped ⊢
      cases stepped with
      | ok next => exact ih next
      | error cause => exact .error cause

theorem resolveCell_eq (mirrors : Mirrors object image) (path : Option String) :
    resolveCell object path = resolveCell image path := by
  cases path with
  | none => rfl
  | some path =>
    have found : MirrorResults (FieldPath.resolve object path) (FieldPath.resolve image path) := by
      unfold FieldPath.resolve
      split
      · exact .refl _
      · exact mirrors.walk _
    rw [resolveCell, resolveCell]
    generalize FieldPath.resolve object path = one, FieldPath.resolve image path = two at found ⊢
    split
    · rfl
    · cases found with
      | ok mirrored => exact mirrored.toCell_eq
      | error cause => rfl

end Mirrors

end Mirror

namespace Ledger

/-- One cell for each header, out of any value that the paths lead into. -/
def rowOf (source : Value) (map : ColumnMap) (headers : List String) : Except Misfit (List Value) :=
  headers.mapM fun header => resolveCell source (map.path? header)

theorem buildRow_eq_rowOf (payload : Payload) (map : ColumnMap) (headers : List String) :
    buildRow payload map headers = rowOf payload.toValue map headers := rfl

/-- A payload and its serialised form have the same cell at every path, or the same misfit, and so
the same row for every map under any headers. -/
theorem serialised_cells_agree (payload : Payload) (typed : payload.WellTyped) :
    ∃ dictionary, payload.toDictionary = .ok dictionary ∧
      (∀ path, resolveCell payload.toValue path = resolveCell dictionary path) ∧
      ∀ map headers, buildRow payload map headers = rowOf dictionary map headers := by
  obtain ⟨moment, submitted⟩ := typed.submittedAt
  have mirrors : Mirrors payload.toValue (.map (payload.entries moment.isoText)) :=
    .payload typed submitted
  refine ⟨_, Payload.toDictionary_eq typed.application.metadata
    (fun document member => (typed.documents document member).metadata) submitted,
    mirrors.resolveCell_eq, fun map headers => ?_⟩
  rw [buildRow_eq_rowOf, rowOf, rowOf]
  exact congrArg headers.mapM (funext fun header => mirrors.resolveCell_eq _)

theorem small_cells_agree :
    ∃ dictionary, (Payload.small (Payload.smallMoment .utc)).toDictionary = .ok dictionary ∧
      resolveCell dictionary (some "documents.0.title") = .ok (.text "Statement") ∧
      resolveCell dictionary (some "submitted_at") = .ok (.text "2024-03-01T12:30:00+00:00") ∧
      rowOf dictionary ⟨"v9", [⟨"ID", "application.id"⟩]⟩ ["Name", "ID"]
        = .ok [.text "", .text "A-1"] := by
  obtain ⟨dictionary, serialised, cells, rows⟩ :=
    serialised_cells_agree (Payload.small (Payload.smallMoment .utc)) (Payload.small_wellTyped _)
  refine ⟨dictionary, serialised, ?_, ?_, ?_⟩
  · rw [← cells]
    rfl
  · rw [← cells]
    rfl
  · rw [← rows]
    rfl

end Ledger

end LoanDispatch
