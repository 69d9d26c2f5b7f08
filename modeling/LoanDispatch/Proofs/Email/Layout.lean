import LoanDispatch.Proofs.Email.Acceptance
import LoanDispatch.Proofs.Text.Lines

/-!
The layout of a message.  A body is made exactly when every part of it can be written, and then it is
the lines of the template with the parts in their places, each ended by a line feed.
-/

set_option autoImplicit false

namespace LoanDispatch.Email

/-- The texts that fill a body. -/
structure Parts where
  name : String
  id : String
  product : String
  amount : String
  submittedAt : String
  documents : List String

/-- The lines of the template, filled. -/
def Parts.lines (parts : Parts) : List String :=
  summaryLines parts.name parts.id parts.product parts.amount parts.submittedAt
    ++ ["", "Documents:"] ++ parts.documents

/-- The parts are what a payload shows in the body. -/
structure Parts.Fill (parts : Parts) (payload : Payload) : Prop where
  name : shown payload.application.name = .ok parts.name
  id : payload.application.id.printed = .ok parts.id
  product : shown payload.application.productType = .ok parts.product
  amount : amountText payload.application.requestedAmount = .ok parts.amount
  submittedAt : payload.submittedAt.isoText = .ok parts.submittedAt
  documents : documentLines payload.documents = .ok parts.documents

section Body

variable {payload : Payload}

theorem bodyLines_eq_ok_iff {lines : List String} :
    bodyLines payload = .ok lines ↔ ∃ parts : Parts, parts.Fill payload ∧ lines = parts.lines := by
  constructor
  · intro made
    obtain ⟨name, named, made⟩ := Result.bind_eq_ok made
    obtain ⟨id, identified, made⟩ := Result.bind_eq_ok made
    obtain ⟨product, sold, made⟩ := Result.bind_eq_ok made
    obtain ⟨amount, asked, made⟩ := Result.bind_eq_ok made
    obtain ⟨stamp, submitted, made⟩ := Result.bind_eq_ok made
    obtain ⟨documents, listed, made⟩ := Result.bind_eq_ok made
    cases made
    exact ⟨⟨name, id, product, amount, stamp, documents⟩,
      ⟨named, identified, sold, asked, submitted, listed⟩, rfl⟩
  · rintro ⟨parts, fill, rfl⟩
    simp only [bodyLines, fill.name, fill.id, fill.product, fill.amount, fill.submittedAt,
      fill.documents]
    rfl

/-- A body is the lines of the template, filled, and there is no other. -/
theorem body_eq_ok_iff {message : String} :
    body payload = .ok message ↔
      ∃ parts : Parts, parts.Fill payload ∧ message = Text.ended parts.lines := by
  have feed (parts : Parts) : Text.join "\n" parts.lines ++ "\n" = Text.ended parts.lines :=
    Text.join_append_feed (List.cons_ne_nil _ _)
  constructor
  · intro made
    obtain ⟨lines, filled, made⟩ := Result.bind_eq_ok made
    obtain ⟨parts, fill, rfl⟩ := bodyLines_eq_ok_iff.mp filled
    cases made
    exact ⟨parts, fill, feed parts⟩
  · rintro ⟨parts, fill, rfl⟩
    rw [body, bodyLines_eq_ok_iff.mpr ⟨parts, fill, rfl⟩, ← feed parts]
    rfl

end Body

/-- What a body shows of the documents: one line for each, or a line that says that there are none. -/
def documentText (document : Document) : String :=
  "  - " ++ document.title.display ++ " (" ++ document.documentType.display ++ ", v"
    ++ document.version.display ++ ")"

def documentTexts (documents : List Document) : List String :=
  if documents.isEmpty then ["  (none)"] else documents.map documentText

/-- The parts of a payload, given those of its amount and of its time. -/
def partsOf (payload : Payload) (amount stamp : String) : Parts where
  name := (payload.application.name.orElse (.text "n/a")).display
  id := payload.application.id.display
  product := (payload.application.productType.orElse (.text "n/a")).display
  amount := amount
  submittedAt := stamp
  documents := documentTexts payload.documents

structure WritableDocument (document : Document) : Prop where
  title : ∃ words, document.title = .text words
  documentType : ∃ words, document.documentType = .text words
  version : ∃ number, document.version = .int number
  short : ¬ LongVersion document

/-- What the body shows of a payload has its kind, and its numbers are not too large. -/
structure Writable (payload : Payload) : Prop where
  name : ∃ words, payload.application.name = .text words
  id : ∃ words, payload.application.id = .text words
  productType : ∃ words, payload.application.productType = .text words
  amount : payload.application.requestedAmount = .null ∨
    (∃ number, payload.application.requestedAmount = .int number) ∨
    ∃ number, payload.application.requestedAmount = .float number
  fits : ¬ LargeAmount payload.application
  submittedAt : ∃ moment, payload.submittedAt = .dateTime moment
  documents : ∀ document ∈ payload.documents, WritableDocument document

section Writable

variable {payload : Payload} {document : Document} {documents : List Document}

theorem writable_of_wellTyped (typed : payload.WellTyped) (fits : ¬ LargeAmount payload.application)
    (short : ∀ document ∈ payload.documents, ¬ LongVersion document) : Writable payload where
  name := typed.application.name
  id := typed.application.id
  productType := typed.application.productType
  amount := typed.application.requestedAmount
  fits := fits
  submittedAt := typed.submittedAt
  documents document member :=
    let own := typed.documents document member
    ⟨own.title, own.documentType, own.version, short document member⟩

theorem small_documents_writable (moment : Calendar.DateTime) :
    ∀ document ∈ (Payload.small moment).documents, WritableDocument document := by
  intro document member
  obtain rfl := List.mem_singleton.mp member
  refine ⟨⟨_, rfl⟩, ⟨_, rfl⟩, ⟨_, rfl⟩, ?_⟩
  rintro ⟨number, same, many⟩
  cases same
  exact absurd (Value.isLong_iff.mpr many) (by decide)

theorem shown_eq_display {value : Value} (given : ∃ words, value = .text words) :
    shown value = .ok (value.orElse (.text "n/a")).display := by
  obtain ⟨words, rfl⟩ := given
  rw [shown, Value.orElse]
  split <;> rfl

theorem documentLine_of_writable (writable : WritableDocument document) :
    documentLine document = .ok (documentText document) := by
  obtain ⟨title, titled⟩ := writable.title
  obtain ⟨kind, named⟩ := writable.documentType
  obtain ⟨number, same⟩ := writable.version
  have few : ¬ Value.isLong number = true :=
    fun many => writable.short ⟨number, same, Value.isLong_iff.mp many⟩
  rw [documentLine, documentText, titled, named, same, Value.printed_int, if_neg few]
  rfl

theorem documentLines_of_writable (writable : ∀ document ∈ documents, WritableDocument document) :
    documentLines documents = .ok (documentTexts documents) := by
  have each : documents.mapM documentLine = .ok (documents.map documentText) := by
    rw [Result.mapM_eq_ok_iff, List.forall₂_map_right_iff, List.forall₂_same]
    exact fun document member => documentLine_of_writable (writable document member)
  rw [documentLines, documentTexts, each]
  split <;> rfl

theorem length_documentTexts : (documentTexts documents).length = max 1 documents.length := by
  unfold documentTexts
  cases documents with
  | nil => rfl
  | cons first rest =>
    rw [List.isEmpty_cons, if_neg Bool.false_ne_true, List.length_map, List.length_cons]
    omega

theorem length_lines (parts : Parts) : parts.lines.length = 7 + parts.documents.length := by
  rw [Parts.lines, List.length_append]
  rfl

/-- A payload that can be written has its parts, and its body is made of them. -/
theorem body_of_writable (writable : Writable payload) :
    ∃ amount moment, payload.submittedAt = .dateTime moment ∧
      amountText payload.application.requestedAmount = .ok amount ∧
      body payload = .ok (Text.ended (partsOf payload amount moment.isoText).lines) := by
  obtain ⟨amount, asked⟩ := amountText_of_numeric writable.fits writable.amount
  obtain ⟨moment, submitted⟩ := writable.submittedAt
  obtain ⟨id, identified⟩ := writable.id
  refine ⟨amount, moment, submitted, asked, body_eq_ok_iff.mpr ⟨_, ?_, rfl⟩⟩
  exact {
    name := shown_eq_display writable.name
    id := by rw [partsOf, identified]; rfl
    product := shown_eq_display writable.productType
    amount := asked
    submittedAt := by rw [submitted]; rfl
    documents := documentLines_of_writable writable.documents }

end Writable

end LoanDispatch.Email
