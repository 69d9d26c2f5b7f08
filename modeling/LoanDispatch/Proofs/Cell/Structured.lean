import LoanDispatch.Proofs.Json.Scanning
import LoanDispatch.Proofs.Payload.Mirror
import LoanDispatch.Proofs.Value.Plain

/-!
Cells of structured values.  A list, a mapping or a snapshot is written as compact JSON in ASCII, and
reading the cell gives the plain form of the value: nothing is lost, and values of different plain
forms have different cells.  Only an integer with more digits than are printed keeps a value from
being written.
-/

set_option autoImplicit false

namespace LoanDispatch

namespace Value

inductive IsSnapshot : Value → Prop where
  | application {application : Application} : application.WellTyped → IsSnapshot application.toValue
  | document {document : Document} : document.WellTyped → IsSnapshot document.toValue
  | payload {payload : Payload} : payload.WellTyped → IsSnapshot payload.toValue

/-- What a cell has in the place of a value that JSON does not know. -/
inductive Described : Value → Value → Prop where
  | dateTime (moment : Calendar.DateTime) : Described (.dateTime moment) (.text moment.isoText)
  | date (day : Calendar.Date) : Described (.date day) (.text day.isoText)
  | foreign (words : String) : Described (.foreign words) (.text words)
  | snapshot {value dictionary : Value} :
      value.IsSnapshot → value.toDictionary = .ok dictionary → Described value dictionary

/-- Data of finite numbers, snapshots among them, in mappings of distinct keys, lists and tuples. -/
inductive Cellular : Value → Prop where
  | null : Cellular .null
  | bool (flag : Bool) : Cellular (.bool flag)
  | int (number : Int) : Cellular (.int number)
  | float {number : Number.Binary64} : number.isFinite = true → Cellular (.float number)
  | text (words : String) : Cellular (.text words)
  | channel (member : Channel) : Cellular (.channel member)
  | dateTime (moment : Calendar.DateTime) : Cellular (.dateTime moment)
  | date (day : Calendar.Date) : Cellular (.date day)
  | foreign (words : String) : Cellular (.foreign words)
  | list {items : List Value} : (∀ item ∈ items, Cellular item) → Cellular (.list items)
  | tuple {items : List Value} : (∀ item ∈ items, Cellular item) → Cellular (.tuple items)
  | map {entries : List (String × Value)} :
      (entries.map Prod.fst).Nodup → (∀ entry ∈ entries, Cellular entry.2) →
        Cellular (.map entries)
  | application {application : Application} :
      application.WellTyped → Cellular application.metadata →
        Cellular application.requestedAmount → Cellular application.toValue
  | document {document : Document} :
      document.WellTyped → Cellular document.metadata → Cellular document.toValue
  | payload {payload : Payload} :
      payload.WellTyped → Cellular payload.application.metadata →
        Cellular payload.application.requestedAmount →
          (∀ document ∈ payload.documents, Cellular document.metadata) → Cellular payload.toValue

/-- A value that is written as a JSON document: a list, a tuple, a mapping or a record. -/
def isStructured : Value → Bool
  | .list _ | .tuple _ | .map _ | .record _ _ => true
  | _ => false

theorem toCell_of_isStructured {value : Value} (structured : value.isStructured = true) :
    value.toCell = (value.toJson (.describe false)).map fun document =>
      .text (document.write Json.compactAscii) := by
  cases value with
  | list items => rfl
  | tuple items => rfl
  | map entries => rfl
  | record kind fields => rfl
  | _ => cases structured

end Value

section Snapshots

open Value

theorem Application.holdsLong_toValue (application : Application) :
    application.toValue.holdsLong = (Value.map application.entries).holdsLong := by
  simp only [toValue, holdsLong, fields, entries, someEntryLong, Bool.or_false]
  ac_rfl

theorem Document.holdsLong_toValue (document : Document) :
    document.toValue.holdsLong = (Value.map document.fields).holdsLong := rfl

theorem Document.someLong_toValue (documents : List Document) :
    someLong (documents.map toValue)
      = someLong (documents.map fun document => .map document.fields) := by
  induction documents with
  | nil => rfl
  | cons document rest ih =>
    rw [List.map_cons, List.map_cons, someLong, someLong, ih, holdsLong_toValue]

theorem Payload.holdsLong_toValue {payload : Payload} {moment : Calendar.DateTime}
    (submitted : payload.submittedAt = .dateTime moment) :
    payload.toValue.holdsLong = (Value.map (payload.entries moment.isoText)).holdsLong := by
  have application := payload.application.holdsLong_toValue
  have documents := Document.someLong_toValue payload.documents
  simp only [toValue, fields, entries, holdsLong, someEntryLong, submitted] at application ⊢
  rw [application, documents]

/-- A snapshot is written as its serialised form is. -/
theorem Value.IsSnapshot.written_alike {value dictionary : Value} (snapshot : value.IsSnapshot)
    (serialised : value.toDictionary = .ok dictionary) :
    value.toJson (.describe false) = dictionary.toJson (.describe false) ∧
      value.holdsLong = dictionary.holdsLong := by
  cases snapshot with
  | @application application typed =>
    cases (Application.toDictionary_toValue typed.metadata).symm.trans serialised
    exact ⟨application.toJson_toValue typed, application.holdsLong_toValue⟩
  | @document document typed =>
    cases (Document.toDictionary_toValue typed.metadata).symm.trans serialised
    exact ⟨document.toJson_toValue typed, document.holdsLong_toValue⟩
  | @payload payload typed =>
    obtain ⟨moment, submitted⟩ := typed.submittedAt
    have own := Payload.toDictionary_eq typed.application.metadata
      (fun document member => (typed.documents document member).metadata) submitted
    cases own.symm.trans serialised
    exact ⟨payload.toJson_toValue typed submitted, payload.holdsLong_toValue submitted⟩

theorem Value.Described.written_alike {value replacement : Value}
    (described : Described value replacement) :
    value.toJson (.describe false) = replacement.toJson (.describe false) ∧
      value.holdsLong = replacement.holdsLong := by
  cases described with
  | dateTime moment => exact ⟨rfl, rfl⟩
  | date day => exact ⟨rfl, rfl⟩
  | foreign words => exact ⟨rfl, rfl⟩
  | snapshot snapshot serialised => exact snapshot.written_alike serialised

theorem Value.describe_follows : (ForeignPolicy.describe false).Follows Described where
  toJson_eq _ _ described := described.written_alike.1
  holdsLong_eq _ _ described := described.written_alike.2

end Snapshots

section Existence

open Value

variable {replaced : Value → Value → Prop}

theorem Value.exists_plain_text {value : Value} (text : ∃ words, value = .text words) :
    ∃ plain, Plain replaced value plain := by
  obtain ⟨words, rfl⟩ := text
  exact ⟨_, .text words⟩

theorem Value.IsOptionalText.exists_plain {value : Value} (optional : value.IsOptionalText) :
    ∃ plain, Plain replaced value plain := by
  rcases optional with rfl | text
  · exact ⟨_, .null⟩
  · exact exists_plain_text text

theorem Application.exists_plain_entries {application : Application} (typed : application.WellTyped)
    (metadata : ∃ plain, Plain replaced application.metadata plain)
    (amount : ∃ plain, Plain replaced application.requestedAmount plain) :
    ∃ plain, Plain replaced (.map application.entries) plain := by
  refine exists_plain_map (by simp [entries]) ?_
  simp only [entries, List.forall_mem_cons]
  exact ⟨exists_plain_text typed.id, typed.ownerUserId.exists_plain, exists_plain_text typed.name,
    metadata, exists_plain_text typed.productType, typed.lenderId.exists_plain,
    typed.lenderProductId.exists_plain, amount, List.forall_mem_nil _⟩

theorem Document.exists_plain_fields {document : Document} (typed : document.WellTyped)
    (metadata : ∃ plain, Plain replaced document.metadata plain) :
    ∃ plain, Plain replaced (.map document.fields) plain := by
  obtain ⟨version, numbered⟩ := typed.version
  refine exists_plain_map (by simp [fields]) ?_
  simp only [fields, List.forall_mem_cons, numbered]
  exact ⟨exists_plain_text typed.documentId, exists_plain_text typed.documentType,
    exists_plain_text typed.title, exists_plain_text typed.versionId, ⟨_, .int version⟩, metadata,
    exists_plain_text typed.content, List.forall_mem_nil _⟩

theorem Payload.exists_plain_entries {payload : Payload} (typed : payload.WellTyped) (stamp : String)
    (metadata : ∃ plain, Plain replaced payload.application.metadata plain)
    (amount : ∃ plain, Plain replaced payload.application.requestedAmount plain)
    (documents : ∀ document ∈ payload.documents, ∃ plain, Plain replaced document.metadata plain) :
    ∃ plain, Plain replaced (.map (payload.entries stamp)) plain := by
  have rows : ∀ row ∈ payload.documents.map fun document => Value.map document.fields,
      ∃ plain, Plain replaced row plain := by
    intro row member
    obtain ⟨document, among, rfl⟩ := List.mem_map.mp member
    exact document.exists_plain_fields (typed.documents document among) (documents document among)
  obtain ⟨images, listed⟩ := exists_plainItems rows
  refine exists_plain_map (by simp [entries]) ?_
  simp only [entries, List.forall_mem_cons]
  exact ⟨payload.application.exists_plain_entries typed.application metadata amount,
    ⟨_, .list listed⟩, ⟨_, .text stamp⟩, List.forall_mem_nil _⟩

theorem Value.Cellular.exists_plain {value : Value} (cellular : value.Cellular) :
    ∃ plain, Plain Described value plain := by
  induction cellular with
  | null => exact ⟨_, .null⟩
  | bool flag => exact ⟨_, .bool flag⟩
  | int number => exact ⟨_, .int number⟩
  | float finite => exact ⟨_, .float finite⟩
  | text words => exact ⟨_, .text words⟩
  | channel member => exact ⟨_, .channel member⟩
  | dateTime moment => exact ⟨_, .replaced (.dateTime moment) (.text _)⟩
  | date day => exact ⟨_, .replaced (.date day) (.text _)⟩
  | foreign words => exact ⟨_, .replaced (.foreign words) (.text _)⟩
  | list _ each =>
    obtain ⟨images, normal⟩ := exists_plainItems each
    exact ⟨_, .list normal⟩
  | tuple _ each =>
    obtain ⟨images, normal⟩ := exists_plainItems each
    exact ⟨_, .tuple normal⟩
  | map distinct _ each => exact exists_plain_map distinct each
  | application typed _ _ metadata amount =>
    obtain ⟨plain, normal⟩ := Application.exists_plain_entries typed metadata amount
    exact ⟨plain, .replaced (.snapshot (.application typed)
      (Application.toDictionary_toValue typed.metadata)) normal⟩
  | document typed _ metadata =>
    obtain ⟨plain, normal⟩ := Document.exists_plain_fields typed metadata
    exact ⟨plain, .replaced (.snapshot (.document typed)
      (Document.toDictionary_toValue typed.metadata)) normal⟩
  | @payload payload typed _ _ _ metadata amount documents =>
    obtain ⟨moment, submitted⟩ := typed.submittedAt
    obtain ⟨plain, normal⟩ :=
      Payload.exists_plain_entries typed moment.isoText metadata amount documents
    exact ⟨plain, .replaced (.snapshot (.payload typed)
      (Payload.toDictionary_eq typed.application.metadata
        (fun document member => (typed.documents document member).metadata) submitted)) normal⟩

end Existence

section Lossless

open Value Json

variable {value plain : Value}

/-- The text is printable ASCII without a blank outside of its string literals, and it is read as
the value. -/
structure Value.CompactlyWrittenAs (plain : Value) (words : String) : Prop where
  ascii : ∀ c ∈ words.toList, IsPrintableAscii c
  compact : ∀ c ∈ unquoted words.toList, Text.isBlank c = false
  decoded : ∃ document, read? words.toList = some document ∧ ofJson document = plain

theorem write_compactlyWrittenAs {document : Json} (written : WrittenAs plain document) :
    plain.CompactlyWrittenAs (document.write compactAscii) := by
  obtain ⟨image, readable⟩ := written
  have words : (document.write compactAscii).toList = document.render compactAscii :=
    String.toList_ofList
  constructor
  · rw [words]
    exact fun c => isPrintableAscii_of_mem_render rfl
      (fun other among => (compactAscii_tokens other among).isPrintableAscii) document
  · rw [words]
    exact (tight_render compactAscii_tokens document).filled
  · rw [words]
    exact ⟨document, read?_render compactAscii_standard readable, image⟩

/-- Both texts cannot be one. -/
theorem Value.CompactlyWrittenAs.plain_unique {other : Value} {words : String}
    (written : plain.CompactlyWrittenAs words) (again : other.CompactlyWrittenAs words) :
    plain = other := by
  obtain ⟨document, read, rfl⟩ := written.decoded
  obtain ⟨document, reread, rfl⟩ := again.decoded
  cases read.symm.trans reread
  rfl

theorem Value.Plain.toCell_prints (structured : value.isStructured = true)
    (normal : Plain Described value plain) :
    Prints (fun cell => ∃ words, cell = .text words ∧ plain.CompactlyWrittenAs words)
      value.holdsLong value.toCell := by
  rw [toCell_of_isStructured structured]
  exact (normal.toJson_prints describe_follows).map _ fun document written =>
    ⟨_, rfl, write_compactlyWrittenAs written⟩

/-- The cell of a structured value is compact JSON of its plain form, so no other plain form has that
cell; only an integer with more digits than are printed keeps it from being written.  The mappings
are dictionaries, and the value may nest to any depth. -/
theorem structured_cells_are_lossless (cellular : value.Cellular)
    (structured : value.isStructured = true) :
    ∃ plain, Plain Described value plain ∧
      (value.holdsLong = true →
        value.toCell = .error (.unprintable Number.maxIntegerDigits)) ∧
      (value.holdsLong = false → ∃ words, value.toCell = .ok (.text words) ∧
        plain.CompactlyWrittenAs words ∧
        ∀ other otherPlain, other.isStructured = true → Plain Described other otherPlain →
          otherPlain ≠ plain → other.toCell ≠ .ok (.text words)) := by
  obtain ⟨plain, normal⟩ := cellular.exists_plain
  have prints := normal.toCell_prints structured
  refine ⟨plain, normal, fun long => ?_, fun short => ?_⟩
  · rw [long] at prints
    exact prints.of_long
  · rw [short] at prints
    obtain ⟨_, cell, words, rfl, written⟩ := prints.of_short
    refine ⟨words, cell, written, fun other otherPlain structured normal apart same => ?_⟩
    have prints := normal.toCell_prints structured
    cases long : other.holdsLong with
    | true =>
      rw [long] at prints
      cases prints.of_long.symm.trans same
    | false =>
      rw [long] at prints
      obtain ⟨_, own, otherWords, rfl, otherWritten⟩ := prints.of_short
      cases own.symm.trans same
      exact apart (otherWritten.plain_unique written)

theorem payload_in_tuple_is_lossless :
    let value : Value :=
      .tuple [(Payload.small (Payload.smallMoment .utc)).toValue, .foreign "1.50", .text "😀\n"]
    value.Cellular ∧ ∃ plain words, Plain Described value plain ∧
      value.toCell = .ok (.text words) ∧ plain.CompactlyWrittenAs words := by
  intro value
  have small := Payload.small_wellTyped (Payload.smallMoment .utc)
  have payload : (Payload.small (Payload.smallMoment .utc)).toValue.Cellular := by
    refine .payload small (.map (by decide) ?_) (.int 5000) ?_
    · exact List.forall_mem_singleton.mpr (.int 1200)
    · exact List.forall_mem_singleton.mpr (.map (by decide) nofun)
  have cellular : value.Cellular :=
    .tuple (List.forall_mem_cons.mpr ⟨payload, List.forall_mem_cons.mpr ⟨.foreign _,
      List.forall_mem_singleton.mpr (.text _)⟩⟩)
  obtain ⟨plain, normal, -, short⟩ := structured_cells_are_lossless cellular rfl
  obtain ⟨words, cell, written, -⟩ := short (by decide)
  exact ⟨cellular, plain, words, normal, cell, written⟩

theorem list_with_long_integer_has_no_cell :
    let value : Value := .list [.int (Number.tenTo Number.maxIntegerDigits)]
    value.Cellular ∧ value.isStructured = true ∧
      value.toCell = .error (.unprintable Number.maxIntegerDigits) := by
  intro value
  have cellular : value.Cellular := .list (List.forall_mem_singleton.mpr (.int _))
  have long : value.holdsLong = true := by
    have digits : isLong (Number.tenTo Number.maxIntegerDigits) = true :=
      isLong_iff.mpr (Nat.le_of_eq (Int.natAbs_natCast _).symm)
    simp only [value, holdsLong, someLong, digits, Bool.or_false]
  obtain ⟨plain, normal⟩ := cellular.exists_plain
  have prints := normal.toCell_prints rfl
  rw [long] at prints
  exact ⟨cellular, rfl, prints.of_long⟩

end Lossless

end LoanDispatch
