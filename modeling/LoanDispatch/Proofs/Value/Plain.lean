import LoanDispatch.Proofs.Json.Reading
import LoanDispatch.Value.Json
import LoanDispatch.Value.OfJson

/-!
The plain form of a value, made of JSON data only: tuples are lists, and a value that JSON does not
know stands for a replacement of its own, which has its plain form in turn.  Values are written as
documents of their plain forms, unless an integer in them has too many digits.
-/

set_option autoImplicit false

namespace LoanDispatch.Value

mutual

/-- The plain form of a value, given what replaces the values that JSON does not know.  Its numbers
are finite and the keys of each mapping differ. -/
inductive Plain (replaced : Value → Value → Prop) : Value → Value → Prop where
  | null : Plain replaced .null .null
  | bool (flag : Bool) : Plain replaced (.bool flag) (.bool flag)
  | int (number : Int) : Plain replaced (.int number) (.int number)
  | float {number : Number.Binary64} :
      number.isFinite = true → Plain replaced (.float number) (.float number)
  | text (words : String) : Plain replaced (.text words) (.text words)
  | channel (member : Channel) : Plain replaced (.channel member) (.text member.code)
  | list {items images : List Value} :
      PlainItems replaced items images → Plain replaced (.list items) (.list images)
  | tuple {items images : List Value} :
      PlainItems replaced items images → Plain replaced (.tuple items) (.list images)
  | map {entries images : List (String × Value)} :
      (entries.map Prod.fst).Nodup → PlainEntries replaced entries images →
        Plain replaced (.map entries) (.map images)
  | replaced {value replacement plain : Value} :
      replaced value replacement → Plain replaced replacement plain → Plain replaced value plain

inductive PlainItems (replaced : Value → Value → Prop) : List Value → List Value → Prop where
  | nil : PlainItems replaced [] []
  | cons {item image : Value} {items images : List Value} :
      Plain replaced item image → PlainItems replaced items images →
        PlainItems replaced (item :: items) (image :: images)

inductive PlainEntries (replaced : Value → Value → Prop) :
    List (String × Value) → List (String × Value) → Prop where
  | nil : PlainEntries replaced [] []
  | cons {key : String} {value image : Value} {entries images : List (String × Value)} :
      Plain replaced value image → PlainEntries replaced entries images →
        PlainEntries replaced ((key, value) :: entries) ((key, image) :: images)

end

section Existence

variable {replaced : Value → Value → Prop}

theorem exists_plainItems {items : List Value}
    (each : ∀ item ∈ items, ∃ image, Plain replaced item image) :
    ∃ images, PlainItems replaced items images := by
  induction items with
  | nil => exact ⟨[], .nil⟩
  | cons item rest ih =>
    obtain ⟨⟨image, own⟩, later⟩ := List.forall_mem_cons.mp each
    obtain ⟨images, others⟩ := ih later
    exact ⟨image :: images, .cons own others⟩

theorem exists_plainEntries {entries : List (String × Value)}
    (each : ∀ entry ∈ entries, ∃ image, Plain replaced entry.2 image) :
    ∃ images, PlainEntries replaced entries images := by
  induction entries with
  | nil => exact ⟨[], .nil⟩
  | cons entry rest ih =>
    obtain ⟨⟨image, own⟩, later⟩ := List.forall_mem_cons.mp each
    obtain ⟨images, others⟩ := ih later
    exact ⟨(entry.1, image) :: images, .cons own others⟩

theorem exists_plain_map {entries : List (String × Value)}
    (distinct : (entries.map Prod.fst).Nodup)
    (each : ∀ entry ∈ entries, ∃ image, Plain replaced entry.2 image) :
    ∃ plain, Plain replaced (.map entries) plain := by
  obtain ⟨images, normal⟩ := exists_plainEntries each
  exact ⟨.map images, .map distinct normal⟩

end Existence

/-- The result is refused for an integer with too many digits, if there is one, and otherwise it has
the property. -/
inductive Prints {α : Type} (holds : α → Prop) : Bool → Except Misfit α → Prop where
  | short {result : α} : holds result → Prints holds false (.ok result)
  | long : Prints holds true (.error (.unprintable Number.maxIntegerDigits))

section Prints

variable {α β : Type} {holds : α → Prop} {holdsNext : β → Prop} {long : Bool}
  {result : Except Misfit α}

theorem Prints.map (prints : Prints holds long result) (f : α → β)
    (kept : ∀ value, holds value → holdsNext (f value)) : Prints holdsNext long (result.map f) := by
  cases prints with
  | short held => exact .short (kept _ held)
  | long => exact .long

theorem Prints.bind {other : Bool} {next : α → Except Misfit β} (prints : Prints holds long result)
    (later : ∀ value, holds value → Prints holdsNext other (next value)) :
    Prints holdsNext (long || other) (result >>= next) := by
  cases prints with
  | short held => exact later _ held
  | long => exact .long

theorem Prints.of_long (prints : Prints holds true result) :
    result = .error (.unprintable Number.maxIntegerDigits) := by
  cases prints
  rfl

theorem Prints.of_short (prints : Prints holds false result) :
    ∃ value, result = .ok value ∧ holds value := by
  cases prints with
  | short held => exact ⟨_, rfl, held⟩

end Prints

/-- Values and their replacements are written alike, and have the same integers. -/
structure ForeignPolicy.Follows (policy : ForeignPolicy) (replaced : Value → Value → Prop) :
    Prop where
  toJson_eq : ∀ value replacement, replaced value replacement →
    value.toJson policy = replacement.toJson policy
  holdsLong_eq : ∀ value replacement, replaced value replacement →
    value.holdsLong = replacement.holdsLong

section Written

variable {policy : ForeignPolicy} {replaced : Value → Value → Prop}

/-- The document is one of the plain value, and can be read back. -/
def WrittenAs (plain : Value) (document : Json) : Prop := ofJson document = plain ∧ document.Readable

def ItemsWrittenAs (plain : List Value) (documents : List Json) : Prop :=
  ofJsonItems documents = plain ∧ ∀ document ∈ documents, document.Readable

def EntriesWrittenAs (plain : List (String × Value)) (documents : List (String × Json)) : Prop :=
  ofJsonEntries documents = plain ∧ ∀ entry ∈ documents, entry.2.Readable

theorem ofJsonEntries_keys (documents : List (String × Json)) :
    (ofJsonEntries documents).map Prod.fst = documents.map Prod.fst := by
  induction documents with
  | nil => rfl
  | cons entry rest ih => rw [ofJsonEntries, List.map_cons, List.map_cons, ih]

theorem PlainEntries.keys {entries images : List (String × Value)} :
    PlainEntries replaced entries images → entries.map Prod.fst = images.map Prod.fst
  | .nil => rfl
  | .cons _ others => congrArg (List.cons _) others.keys

mutual

/-- A value is written as a document of its plain form, or refused for an integer in it. -/
theorem Plain.toJson_prints (follows : policy.Follows replaced) {value plain : Value} :
    Plain replaced value plain →
      Prints (WrittenAs plain) value.holdsLong (value.toJson policy)
  | .null => .short ⟨rfl, .null⟩
  | .bool flag => .short ⟨rfl, .bool flag⟩
  | .int number => by
    rw [toJson, holdsLong]
    cases short : isLong number with
    | false => exact .short ⟨rfl, .int short⟩
    | true => exact .long
  | @Plain.float _ number finite => by
    have kept : ¬ (policy = .refuse ∧ (!number.isFinite) = true) := by simp [finite]
    rw [toJson, if_neg kept]
    exact .short ⟨rfl, .float number⟩
  | .text words => .short ⟨rfl, .text words⟩
  | .channel member => .short ⟨rfl, .text member.code⟩
  | .list items => by
    rw [toJson, holdsLong]
    exact (items.itemsJson_prints follows).map _ fun documents written =>
      ⟨congrArg Value.list written.1, .array written.2⟩
  | .tuple items => by
    rw [toJson, holdsLong]
    exact (items.itemsJson_prints follows).map _ fun documents written =>
      ⟨congrArg Value.list written.1, .array written.2⟩
  | .map distinct entries => by
    rw [toJson, holdsLong]
    refine (entries.entriesJson_prints follows).map _ fun documents written =>
      ⟨congrArg Value.map written.1, .object ?_ written.2⟩
    rwa [← ofJsonEntries_keys, written.1, ← entries.keys]
  | .replaced replacement normal => by
    rw [follows.toJson_eq _ _ replacement, follows.holdsLong_eq _ _ replacement]
    exact normal.toJson_prints follows

theorem PlainItems.itemsJson_prints (follows : policy.Follows replaced)
    {items images : List Value} :
    PlainItems replaced items images →
      Prints (ItemsWrittenAs images) (someLong items) (itemsJson policy items)
  | .nil => .short ⟨rfl, nofun⟩
  | .cons item items => by
    rw [itemsJson, someLong]
    refine (item.toJson_prints follows).bind fun first own => ?_
    exact (items.itemsJson_prints follows).map _ fun others later =>
      ⟨congrArg₂ List.cons own.1 later.1, List.forall_mem_cons.mpr ⟨own.2, later.2⟩⟩

theorem PlainEntries.entriesJson_prints (follows : policy.Follows replaced)
    {entries images : List (String × Value)} :
    PlainEntries replaced entries images →
      Prints (EntriesWrittenAs images) (someEntryLong entries) (entriesJson policy entries)
  | .nil => .short ⟨rfl, nofun⟩
  | @PlainEntries.cons _ key _ _ _ _ value others => by
    rw [entriesJson, someEntryLong]
    refine (value.toJson_prints follows).bind fun first own => ?_
    exact (others.entriesJson_prints follows).map _ fun rest later =>
      ⟨congrArg₂ (fun image images => (key, image) :: images) own.1 later.1,
        List.forall_mem_cons.mpr ⟨own.2, later.2⟩⟩

end

end Written

end LoanDispatch.Value
