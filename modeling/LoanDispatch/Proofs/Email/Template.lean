import LoanDispatch.Proofs.Calendar.Stamp
import LoanDispatch.Proofs.Email.Layout
import LoanDispatch.Proofs.Json.Scanning
import LoanDispatch.Proofs.Number.Amount

/-!
The template of a message and the texts in it.  What the message writes by itself has no line break;
the texts of the application and of its documents stand as they are.  So a message is read as the lines
of the template exactly when none of these texts breaks a line.
-/

set_option autoImplicit false

namespace LoanDispatch.Email

open Text (lineBreaks Unbroken)

/-- The texts of the application and of its documents that a message shows. -/
def givenTexts (payload : Payload) : List String :=
  [payload.application.name.display, payload.application.id.display,
    payload.application.productType.display]
    ++ payload.documents.flatMap fun document =>
      [document.title.display, document.documentType.display]

section Unbroken

theorem unbroken_isoText (moment : Calendar.DateTime) : Unbroken moment.isoText := by
  refine Text.unbroken_of_printable fun c member => ?_
  rcases moment.spells_isoText c member with digit | mark
  · exact (Json.isToken_digit digit).isPrintableAscii
  · exact (Json.isToken_of_all rfl c mark).isPrintableAscii

theorem unbroken_amount (number : Number.Binary64) :
    Unbroken (number.amountText Number.amountFormat) := by
  cases number with
  | nan => decide
  | infinite negative => cases negative <;> decide
  | finite negative size =>
    have written := Number.writesAmount_amountText negative size
    refine Text.unbroken_of_printable fun c member => ?_
    by_cases comma : c = ','
    · rw [comma]
      decide
    · -- Apart from the commas the text is a numeral.
      have kept : c ∈ (Number.amountNumeral negative size.hundredths).chars := by
        rw [← written.plain]
        exact List.mem_filter.mpr ⟨member, decide_eq_true comma⟩
      exact (written.sound.isToken_of_mem kept).isPrintableAscii

theorem unbroken_amountText {payload : Payload} (writable : Writable payload) {amount : String}
    (asked : amountText payload.application.requestedAmount = .ok amount) : Unbroken amount := by
  rcases writable.amount with same | ⟨number, same⟩ | ⟨number, same⟩
  all_goals rw [same, amountText] at asked
  · cases asked
    decide
  · rw [amountText.wholeText] at asked
    split at asked
    · cases asked
      exact unbroken_amount _
    · cases asked
  · cases asked
    exact unbroken_amount number

theorem unbroken_version {document : Document} (writable : WritableDocument document) :
    Unbroken document.version.display := by
  obtain ⟨number, same⟩ := writable.version
  refine Text.unbroken_of_printable fun c member => ?_
  have digits : document.version.display = toString number := by
    rw [same]
    rfl
  rw [digits, ← Json.Numeral.chars_ofInt] at member
  exact ((Json.Numeral.sound_ofInt number).isToken_of_mem member).isPrintableAscii

end Unbroken

section Marks

variable {mark : Char} {label words : String} {document : Document} {documents : List Document}
  {payload : Payload}

theorem mem_label_append (ending : mark ∈ lineBreaks) (plain : Unbroken label) :
    mark ∈ (label ++ words).toList ↔ mark ∈ words.toList := by
  rw [Text.mem_toList_append, or_iff_right (plain.notMem ending)]

theorem mem_append_label (ending : mark ∈ lineBreaks) (plain : Unbroken label) :
    mark ∈ (words ++ label).toList ↔ mark ∈ words.toList := by
  rw [Text.mem_toList_append, or_iff_left (plain.notMem ending)]

theorem mem_orElse (ending : mark ∈ lineBreaks) (plain : Unbroken label) {value : Value}
    (given : ∃ words, value = .text words) :
    mark ∈ (value.orElse (.text label)).display.toList ↔ mark ∈ value.display.toList := by
  obtain ⟨words, rfl⟩ := given
  rw [Value.orElse]
  split
  · rfl
  · next blank =>
    -- Only the empty text is replaced, and neither it nor the label has a line break.
    have empty : words = "" := not_not.mp (mt bne_iff_ne.mpr blank)
    have nothing : Unbroken "" := by decide
    rw [empty]
    exact iff_of_false (plain.notMem ending) (nothing.notMem ending)

theorem mem_subject (ending : mark ∈ lineBreaks) (writable : Writable payload) :
    mark ∈ (subject payload).toList ↔
      mark ∈ payload.application.name.display.toList ∨
        mark ∈ payload.application.id.display.toList := by
  have parts : subject payload = "Loan application submission: "
      ++ (payload.application.name.orElse (.text "Untitled application")).display
      ++ " (" ++ payload.application.id.display ++ ")" := rfl
  rw [parts, mem_append_label ending (by decide), Text.mem_toList_append,
    mem_append_label ending (by decide), mem_label_append ending (by decide),
    mem_orElse ending (by decide) writable.name]

theorem mem_documentText (ending : mark ∈ lineBreaks) (writable : WritableDocument document) :
    mark ∈ (documentText document).toList ↔
      mark ∈ document.title.display.toList ∨ mark ∈ document.documentType.display.toList := by
  rw [documentText, mem_append_label ending (by decide),
    mem_append_label ending (unbroken_version writable), mem_append_label ending (by decide),
    Text.mem_toList_append, mem_append_label ending (by decide),
    mem_label_append ending (by decide)]

theorem exists_mem_documentTexts (ending : mark ∈ lineBreaks)
    (writable : ∀ document ∈ documents, WritableDocument document) :
    (∃ line ∈ documentTexts documents, mark ∈ line.toList) ↔
      ∃ document ∈ documents, mark ∈ document.title.display.toList ∨
        mark ∈ document.documentType.display.toList := by
  have none : mark ∉ "  (none)".toList := Unbroken.notMem (by decide) ending
  unfold documentTexts
  cases documents with
  | nil =>
    refine iff_of_false ?_ (by simp)
    rintro ⟨line, member, inside⟩
    cases List.mem_singleton.mp member
    exact none inside
  | cons first rest =>
    rw [List.isEmpty_cons, if_neg Bool.false_ne_true]
    simp only [List.mem_map, exists_exists_and_eq_and]
    exact exists_congr fun document => and_congr_right fun member =>
      mem_documentText ending (writable document member)

/-- The lines of the template break where their parts do. -/
theorem exists_mem_lines (ending : mark ∈ lineBreaks) (parts : Parts) :
    (∃ line ∈ parts.lines, mark ∈ line.toList) ↔
      (mark ∈ parts.name.toList ∨ mark ∈ parts.id.toList ∨ mark ∈ parts.product.toList) ∨
        (mark ∈ parts.amount.toList ∨ mark ∈ parts.submittedAt.toList) ∨
        ∃ line ∈ parts.documents, mark ∈ line.toList := by
  have header : mark ∉ "Documents:".toList := Unbroken.notMem (by decide) ending
  simp only [Parts.lines, summaryLines, List.mem_append, List.mem_cons, List.not_mem_nil, or_false,
    or_and_right, exists_or, exists_eq_left, String.toList_empty, header, false_or,
    mem_label_append ending (show Unbroken "Application: " by decide),
    mem_label_append ending (show Unbroken "Application ID: " by decide),
    mem_label_append ending (show Unbroken "Product: " by decide),
    mem_label_append ending (show Unbroken "Requested Amount: " by decide),
    mem_label_append ending (show Unbroken "Submitted At: " by decide), or_assoc]

theorem exists_mem_givenTexts :
    (∃ words ∈ givenTexts payload, mark ∈ words.toList) ↔
      (mark ∈ payload.application.name.display.toList ∨
        mark ∈ payload.application.id.display.toList ∨
        mark ∈ payload.application.productType.display.toList) ∨
      ∃ document ∈ payload.documents, mark ∈ document.title.display.toList ∨
        mark ∈ document.documentType.display.toList := by
  simp only [givenTexts, List.mem_append, List.mem_cons, List.not_mem_nil, or_false, List.mem_flatMap,
    or_and_right, exists_or, exists_eq_left, or_assoc]
  refine or_congr_right (or_congr_right (or_congr_right ?_))
  constructor
  · rintro ⟨words, ⟨document, member, rfl | rfl⟩, inside⟩
    · exact ⟨document, member, .inl inside⟩
    · exact ⟨document, member, .inr inside⟩
  · rintro ⟨document, member, inside | inside⟩
    · exact ⟨_, ⟨document, member, .inl rfl⟩, inside⟩
    · exact ⟨_, ⟨document, member, .inr rfl⟩, inside⟩

end Marks

/-- A message is the lines of the template, each ended by one line feed, with the given texts as they
are: the subject and the lines break exactly where these texts do, and the lines are read back exactly
when no text has a line feed. -/
theorem message_follows_template {payload : Payload} (writable : Writable payload) :
    ∃ amount moment, payload.submittedAt = .dateTime moment ∧
      amountText payload.application.requestedAmount = .ok amount ∧
      let lines := (partsOf payload amount moment.isoText).lines
      body payload = .ok (Text.ended lines) ∧
      lines.length = 7 + max 1 payload.documents.length ∧
      (∀ mark ∈ lineBreaks,
        (mark ∈ (subject payload).toList ↔
          mark ∈ payload.application.name.display.toList ∨
            mark ∈ payload.application.id.display.toList) ∧
        ((∃ line ∈ lines, mark ∈ line.toList) ↔
          ∃ words ∈ givenTexts payload, mark ∈ words.toList)) ∧
      (Text.split '\n' (Text.ended lines) = lines ++ [""] ↔
        ∀ words ∈ givenTexts payload, '\n' ∉ words.toList) := by
  obtain ⟨amount, moment, submitted, asked, made⟩ := body_of_writable writable
  refine ⟨amount, moment, submitted, asked, ?_⟩
  intro lines
  have count : lines.length = 7 + max 1 payload.documents.length := by
    rw [length_lines, partsOf, length_documentTexts]
  have breaks {mark : Char} (ending : mark ∈ lineBreaks) :
      (∃ line ∈ lines, mark ∈ line.toList) ↔ ∃ words ∈ givenTexts payload, mark ∈ words.toList := by
    -- The amount and the time are written by the message, so only the given texts are left.
    have amountPlain := (unbroken_amountText writable asked).notMem ending
    have stampPlain := (unbroken_isoText moment).notMem ending
    rw [exists_mem_lines ending, exists_mem_givenTexts]
    simp only [partsOf, mem_orElse ending (show Unbroken "n/a" by decide) writable.name,
      mem_orElse ending (show Unbroken "n/a" by decide) writable.productType,
      exists_mem_documentTexts ending writable.documents, amountPlain, stampPlain, false_or]
  refine ⟨made, count, fun mark ending => ⟨mem_subject ending writable, breaks ending⟩, ?_⟩
  have feed := not_congr (breaks (List.mem_cons_self : '\n' ∈ lineBreaks))
  simp only [not_exists, not_and] at feed
  exact Text.split_ended_iff.trans feed

/-- The small payload with another name and without an amount. -/
def namedPayload (name : String) : Payload :=
  let small := Payload.small (Payload.smallMoment .utc)
  { small with
    application := { small.application with name := .text name, requestedAmount := .null } }

theorem namedPayload_writable (name : String) : Writable (namedPayload name) where
  name := ⟨name, rfl⟩
  id := ⟨_, rfl⟩
  productType := ⟨_, rfl⟩
  amount := .inl rfl
  fits := by
    rintro ⟨number, same, -⟩
    cases same
  submittedAt := ⟨_, rfl⟩
  documents := small_documents_writable (Payload.smallMoment .utc)

/-- Texts of one line are shown in the lines of the template. -/
theorem plain_name_keeps_template :
    let payload := namedPayload "Acme"
    Writable payload ∧ ∃ lines, body payload = .ok (Text.ended lines) ∧ lines.length = 8 ∧
      Text.split '\n' (Text.ended lines) = lines ++ [""] := by
  intro payload
  have writable : Writable payload := namedPayload_writable "Acme"
  obtain ⟨_, _, -, -, made, count, -, read⟩ := message_follows_template writable
  exact ⟨writable, _, made, count, read.mpr (by decide)⟩

/-- A name of two lines breaks the subject, and the body has a line that the template does not have. -/
theorem name_of_two_lines_forges_amount :
    let payload := namedPayload "Acme\nRequested Amount: 1.00"
    let lines := ["Application: Acme", "Requested Amount: 1.00", "Application ID: A-1",
      "Product: term", "Requested Amount: n/a", "Submitted At: 2024-03-01T12:30:00+00:00", "",
      "Documents:", "  - Statement (bank, v3)"]
    Writable payload ∧ '\n' ∈ (subject payload).toList ∧ body payload = .ok (Text.ended lines) ∧
      Text.split '\n' (Text.ended lines) = lines ++ [""] := by
  intro payload lines
  refine ⟨namedPayload_writable _, by decide +kernel, by decide +kernel, ?_⟩
  exact Text.split_ended_iff.mpr (by decide)

end LoanDispatch.Email
