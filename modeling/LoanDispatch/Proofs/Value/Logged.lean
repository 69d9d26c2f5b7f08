import LoanDispatch.Proofs.Value.Plain

/-!
Values as log lines show them.  Tuples are lists and channels their codes, and a value that JSON does
not know is shown by its text.  A value is written as a document of what is shown of it, unless it
holds an integer with too many digits.
-/

set_option autoImplicit false

namespace LoanDispatch.Value

mutual

/-- What a log line shows of a value. -/
def logged : Value → Value
  | .null => .null
  | .bool flag => .bool flag
  | .int number => .int number
  | .float number => .float number
  | .text words => .text words
  | .list items | .tuple items => .list (loggedItems items)
  | .map entries => .map (loggedEntries entries)
  | .channel member => .text member.code
  | value => .text value.display

def loggedItems : List Value → List Value
  | [] => []
  | item :: rest => item.logged :: loggedItems rest

def loggedEntries : List (String × Value) → List (String × Value)
  | [] => []
  | (key, value) :: rest => (key, value.logged) :: loggedEntries rest

end

/-- Data of numbers, texts, lists and mappings of distinct keys, with any objects that JSON does not
know among them. -/
inductive Loggable : Value → Prop where
  | null : Loggable .null
  | bool (flag : Bool) : Loggable (.bool flag)
  | int (number : Int) : Loggable (.int number)
  | float (number : Number.Binary64) : Loggable (.float number)
  | text (words : String) : Loggable (.text words)
  | list {items : List Value} : (∀ item ∈ items, Loggable item) → Loggable (.list items)
  | tuple {items : List Value} : (∀ item ∈ items, Loggable item) → Loggable (.tuple items)
  | map {entries : List (String × Value)} :
      (entries.map Prod.fst).Nodup → (∀ entry ∈ entries, Loggable entry.2) →
        Loggable (.map entries)
  | channel (member : Channel) : Loggable (.channel member)
  | dateTime (moment : Calendar.DateTime) : Loggable (.dateTime moment)
  | date (day : Calendar.Date) : Loggable (.date day)
  | foreign (words : String) : Loggable (.foreign words)
  | record (kind : RecordKind) (fields : List (String × Value)) : Loggable (.record kind fields)

section Entries

theorem loggedEntries_eq_map (entries : List (String × Value)) :
    loggedEntries entries = entries.map fun entry => (entry.1, entry.2.logged) := by
  induction entries with
  | nil => rfl
  | cons entry rest ih => rw [loggedEntries, ih, List.map_cons]

theorem loggedEntries_keys (entries : List (String × Value)) :
    (loggedEntries entries).map Prod.fst = entries.map Prod.fst := by
  rw [loggedEntries_eq_map, List.map_map]
  rfl

theorem lookup_loggedEntries (key : String) (entries : List (String × Value)) :
    Entries.lookup key (loggedEntries entries) = (Entries.lookup key entries).map logged := by
  induction entries with
  | nil => rfl
  | cons entry rest ih =>
    rw [loggedEntries, Entries.lookup, Entries.lookup, ih]
    split <;> rfl

end Entries

section Written

theorem itemsJson_prints_logged {policy : ForeignPolicy} {items : List Value}
    (each : ∀ item ∈ items,
      Prints (WrittenAs item.logged) item.holdsLong (item.toJson policy)) :
    Prints (ItemsWrittenAs (loggedItems items)) (someLong items) (itemsJson policy items) := by
  induction items with
  | nil => exact .short ⟨rfl, List.forall_mem_nil _⟩
  | cons item rest ih =>
    obtain ⟨own, later⟩ := List.forall_mem_cons.mp each
    rw [itemsJson, someLong, loggedItems]
    refine own.bind fun first written => ?_
    exact (ih later).map _ fun others listed =>
      ⟨congrArg₂ List.cons written.1 listed.1, List.forall_mem_cons.mpr ⟨written.2, listed.2⟩⟩

theorem entriesJson_prints_logged {policy : ForeignPolicy} {entries : List (String × Value)}
    (each : ∀ entry ∈ entries,
      Prints (WrittenAs entry.2.logged) entry.2.holdsLong (entry.2.toJson policy)) :
    Prints (EntriesWrittenAs (loggedEntries entries)) (someEntryLong entries)
      (entriesJson policy entries) := by
  induction entries with
  | nil => exact .short ⟨rfl, List.forall_mem_nil _⟩
  | cons entry rest ih =>
    obtain ⟨own, later⟩ := List.forall_mem_cons.mp each
    rw [entriesJson, someEntryLong, loggedEntries]
    refine own.bind fun first written => ?_
    exact (ih later).map _ fun others listed =>
      ⟨congrArg₂ (fun image images => (entry.1, image) :: images) written.1 listed.1,
        List.forall_mem_cons.mpr ⟨written.2, listed.2⟩⟩

/-- A value is written as what a line shows of it, or refused for an integer in it. -/
theorem Loggable.toJson_prints {value : Value} (loggable : value.Loggable) :
    Prints (WrittenAs value.logged) value.holdsLong (value.toJson .display) := by
  induction loggable with
  | null => exact .short ⟨rfl, .null⟩
  | bool flag => exact .short ⟨rfl, .bool flag⟩
  | int number =>
    rw [toJson, holdsLong]
    cases short : isLong number with
    | false => exact .short ⟨rfl, .int short⟩
    | true => exact .long
  | float number => exact .short ⟨rfl, .float number⟩
  | text words => exact .short ⟨rfl, .text words⟩
  | list _ each =>
    rw [toJson, holdsLong, logged]
    exact (itemsJson_prints_logged each).map _ fun documents written =>
      ⟨congrArg Value.list written.1, .array written.2⟩
  | tuple _ each =>
    rw [toJson, holdsLong, logged]
    exact (itemsJson_prints_logged each).map _ fun documents written =>
      ⟨congrArg Value.list written.1, .array written.2⟩
  | map distinct _ each =>
    rw [toJson, holdsLong, logged]
    refine (entriesJson_prints_logged each).map _ fun documents written =>
      ⟨congrArg Value.map written.1, .object ?_ written.2⟩
    rwa [← ofJsonEntries_keys, written.1, loggedEntries_keys]
  | channel member => exact .short ⟨rfl, .text member.code⟩
  | dateTime moment => exact .short ⟨rfl, .text _⟩
  | date day => exact .short ⟨rfl, .text _⟩
  | foreign words => exact .short ⟨rfl, .text words⟩
  | record kind fields =>
    rw [toJson, printed]
    cases long : (Value.record kind fields).holdsLong with
    | false => exact .short ⟨rfl, .text _⟩
    | true => exact .long

end Written

end LoanDispatch.Value
