import LoanDispatch.Log.Line
import LoanDispatch.Proofs.Json.Scanning
import LoanDispatch.Proofs.Result.Steps
import LoanDispatch.Proofs.Text.Lines
import LoanDispatch.Proofs.Value.Logged

/-!
Log lines as JSON.  Whatever a record and the bound context hold, the line is printable ASCII without
a line break and decodes to one object.  Its keys come from four groups that share none, so no field
can stand in for another: each says what the record or the context says, or is absent.
-/

set_option autoImplicit false

namespace LoanDispatch

section Lookup

variable {α : Type}

theorem Entries.lookup_append (key : String) (first second : List (String × α)) :
    lookup key (first ++ second) = (lookup key first).or (lookup key second) := by
  induction first with
  | nil => rfl
  | cons entry rest ih =>
    rw [List.cons_append, lookup, lookup, ih]
    split <;> rfl

/-- The entries of some names, taken from other entries. -/
theorem Entries.lookup_filterMap (key : String) (names : List String)
    (entries : List (String × α)) :
    lookup key (names.filterMap fun name => (lookup name entries).map fun value => (name, value))
      = if key ∈ names then lookup key entries else none := by
  induction names with
  | nil => rfl
  | cons name rest ih =>
    by_cases same : name = key
    · subst same
      cases found : lookup name entries with
      | none => simp [found, ih]
      | some value => simp [found, lookup]
    · cases found : lookup name entries with
      | none => simp [found, ih, Ne.symm same]
      | some value => simp [found, lookup, ih, same, Ne.symm same]

theorem Entries.keys_filterMap_sublist (names : List String) (entries : List (String × α)) :
    ((names.filterMap fun name => (lookup name entries).map fun value => (name, value)).map
      Prod.fst).Sublist names := by
  induction names with
  | nil => exact .slnil
  | cons name rest ih =>
    cases found : lookup name entries with
    | none => simpa [found] using ih.cons name
    | some value => simpa [found] using ih.cons_cons name

end Lookup

theorem Value.someEntryLong_iff {entries : List (String × Value)} :
    someEntryLong entries = true ↔ ∃ entry ∈ entries, entry.2.holdsLong = true := by
  induction entries with
  | nil => simp [someEntryLong]
  | cons entry rest ih => simp [someEntryLong, ih]

namespace Log

open Json (IsPrintableAscii)

namespace Record

/-- The entries that say what every record says. -/
def ownEntries (record : Record) (stamp message : String) : List (String × Value) :=
  [("timestamp", .text stamp), ("level", .text record.level.name), ("logger", .text record.logger),
   ("message", .text message), ("source", .text record.origin.place)]

def contextEntries (context : Fields) : List (String × Value) :=
  if context.isEmpty then [] else [("context", .map context)]

def correlationEntries (record : Record) : List (String × Value) :=
  correlationFields.filterMap fun name =>
    (Entries.lookup name record.fields).map fun value => (name, value)

def exceptionValue (summary : Summary) : Value :=
  .map [("type", .text summary.className), ("message", .text summary.text)]

def exceptionEntries (record : Record) : List (String × Value) :=
  (record.exception.map fun summary => ("exception", exceptionValue summary)).toList

/-- All entries of a line, in their order. -/
def lineEntries (record : Record) (context : Fields) (stamp message : String) :
    List (String × Value) :=
  record.ownEntries stamp message
    ++ (contextEntries context ++ (record.correlationEntries ++ record.exceptionEntries))

def ownKeys : List String := ["timestamp", "level", "logger", "message", "source"]

/-- All keys that a line can have. -/
def lineKeys : List String := ownKeys ++ (["context"] ++ (correlationFields ++ ["exception"]))

/-- The values of a line are data that can be logged. -/
structure Loggable (record : Record) (context : Fields) : Prop where
  context : (Value.map context).Loggable
  fields : ∀ name ∈ correlationFields, ∀ value,
    Entries.lookup name record.fields = some value → value.Loggable

/-- The context or a correlation field holds an integer with more digits than are printed. -/
def HoldsLong (record : Record) (context : Fields) : Prop :=
  (Value.map context).holdsLong = true ∨
    ∃ name ∈ correlationFields, ∃ value,
      Entries.lookup name record.fields = some value ∧ value.holdsLong = true

/-- What the entries of a line say: what the record and the context say, and nothing else. -/
structure Reports (record : Record) (context : Fields) (stamp message : String)
    (entries : List (String × Value)) : Prop where
  keys : (entries.map Prod.fst).Nodup ∧ ∀ key ∈ entries.map Prod.fst, key ∈ lineKeys
  timestamp : Entries.lookup "timestamp" entries = some (.text stamp)
  level : Entries.lookup "level" entries = some (.text record.level.name)
  logger : Entries.lookup "logger" entries = some (.text record.logger)
  message : Entries.lookup "message" entries = some (.text message)
  source : Entries.lookup "source" entries = some (.text record.origin.place)
  context : Entries.lookup "context" entries
    = if context = [] then none else some (Value.map context).logged
  correlation : ∀ name ∈ correlationFields,
    Entries.lookup name entries = (Entries.lookup name record.fields).map Value.logged
  exception : Entries.lookup "exception" entries = record.exception.map exceptionValue

section Keys

variable (record : Record) (context : Fields) (stamp message : String)

theorem lineKeys_nodup : lineKeys.Nodup := by decide

theorem keys_sublist :
    ((record.lineEntries context stamp message).map Prod.fst).Sublist lineKeys := by
  have contextKeys : ((contextEntries context).map Prod.fst).Sublist ["context"] := by
    unfold contextEntries
    split
    · exact List.nil_sublist _
    · exact .refl _
  have exceptionKeys : (record.exceptionEntries.map Prod.fst).Sublist ["exception"] := by
    unfold exceptionEntries
    cases record.exception with
    | none => exact List.nil_sublist _
    | some summary => exact .refl _
  -- Absent groups and fields leave gaps, so the keys are a part of all keys in their order.
  have correlationKeys := Entries.keys_filterMap_sublist correlationFields record.fields
  simp only [lineEntries, List.map_append]
  exact (List.Sublist.refl _).append
    (contextKeys.append (correlationKeys.append exceptionKeys))

theorem keys_nodup : ((record.lineEntries context stamp message).map Prod.fst).Nodup :=
  lineKeys_nodup.sublist (record.keys_sublist context stamp message)

end Keys

section Lookups

variable (record : Record) (context : Fields) (stamp message : String)

theorem lookup_lineEntries (key : String) :
    Entries.lookup key (record.lineEntries context stamp message)
      = (Entries.lookup key (record.ownEntries stamp message)).or
        ((Entries.lookup key (contextEntries context)).or
          ((if key ∈ correlationFields then Entries.lookup key record.fields else none).or
            (Entries.lookup key record.exceptionEntries))) := by
  rw [lineEntries, Entries.lookup_append, Entries.lookup_append, Entries.lookup_append,
    correlationEntries, Entries.lookup_filterMap]

theorem lookup_contextEntries (key : String) :
    Entries.lookup key (contextEntries context)
      = if key = "context" ∧ context ≠ [] then some (.map context) else none := by
  unfold contextEntries
  cases context with
  | nil => simp [Entries.lookup]
  | cons field rest => simp [Entries.lookup, eq_comm]

theorem lookup_exceptionEntries (key : String) :
    Entries.lookup key record.exceptionEntries
      = if key = "exception" then record.exception.map exceptionValue else none := by
  unfold exceptionEntries
  cases record.exception with
  | none => simp [Entries.lookup]
  | some summary => simp [Entries.lookup, eq_comm]

/-- The groups of keys are apart. -/
theorem correlation_apart :
    ∀ name ∈ correlationFields, name ∉ ownKeys ∧ name ≠ "context" ∧ name ≠ "exception" := by
  decide

theorem lookup_ownEntries_of_notMem {key : String} (apart : key ∉ ownKeys) :
    Entries.lookup key (record.ownEntries stamp message) = none :=
  Entries.lookup_of_notMem apart

theorem lookup_correlation {name : String} (named : name ∈ correlationFields) :
    Entries.lookup name (record.lineEntries context stamp message)
      = Entries.lookup name record.fields := by
  obtain ⟨own, context_apart, exception_apart⟩ := correlation_apart name named
  rw [lookup_lineEntries, lookup_ownEntries_of_notMem record stamp message own,
    lookup_contextEntries, lookup_exceptionEntries, if_pos named,
    if_neg fun both => context_apart both.1, if_neg exception_apart, Option.none_or, Option.none_or,
    Option.or_none]

theorem lookup_context :
    Entries.lookup "context" (record.lineEntries context stamp message)
      = if context = [] then none else some (.map context) := by
  have absent := lookup_ownEntries_of_notMem record stamp message
    (by decide : "context" ∉ ownKeys)
  have unrelated : "context" ∉ correlationFields := by decide
  rw [lookup_lineEntries, absent, lookup_contextEntries, lookup_exceptionEntries, if_neg unrelated,
    if_neg (by decide : "context" ≠ "exception"), Option.none_or, Option.none_or, Option.or_none]
  by_cases empty : context = [] <;> simp [empty]

theorem lookup_exception :
    Entries.lookup "exception" (record.lineEntries context stamp message)
      = record.exception.map exceptionValue := by
  have absent := lookup_ownEntries_of_notMem record stamp message
    (by decide : "exception" ∉ ownKeys)
  have unrelated : "exception" ∉ correlationFields := by decide
  rw [lookup_lineEntries, absent, lookup_contextEntries, lookup_exceptionEntries, if_neg unrelated,
    if_neg fun both => absurd both.1 (by decide), if_pos rfl, Option.none_or, Option.none_or,
    Option.none_or]

theorem reports_lineEntries :
    record.Reports context stamp message
      (Value.loggedEntries (record.lineEntries context stamp message)) := by
  have own (key : String) {words : String}
      (found : Entries.lookup key (record.ownEntries stamp message) = some (.text words)) :
      Entries.lookup key (Value.loggedEntries (record.lineEntries context stamp message))
        = some (.text words) := by
    rw [Value.lookup_loggedEntries, lookup_lineEntries, found]
    rfl
  constructor
  case keys =>
    rw [Value.loggedEntries_keys]
    have sublist := record.keys_sublist context stamp message
    exact ⟨lineKeys_nodup.sublist sublist, fun key member => sublist.subset member⟩
  case timestamp => exact own "timestamp" (by simp [ownEntries, Entries.lookup])
  case level => exact own "level" (by simp [ownEntries, Entries.lookup])
  case logger => exact own "logger" (by simp [ownEntries, Entries.lookup])
  case message => exact own "message" (by simp [ownEntries, Entries.lookup])
  case source => exact own "source" (by simp [ownEntries, Entries.lookup])
  case context =>
    rw [Value.lookup_loggedEntries, lookup_context]
    split <;> rfl
  case correlation =>
    intro name named
    rw [Value.lookup_loggedEntries, record.lookup_correlation context stamp message named]
  case exception =>
    rw [Value.lookup_loggedEntries, lookup_exception, Option.map_map]
    rfl

end Lookups

section Values

variable {record : Record} {context : Fields} {stamp message : String}

/-- The values of a line are texts, the context, and the correlation fields. -/
theorem mem_lineEntries {entry : String × Value}
    (member : entry ∈ record.lineEntries context stamp message) :
    (entry.2.Loggable ∧ entry.2.holdsLong = false) ∨ entry.2 = .map context ∨
      ∃ name ∈ correlationFields, Entries.lookup name record.fields = some entry.2 := by
  simp only [lineEntries, List.mem_append] at member
  rcases member with own | context | correlation | exception
  · left
    simp only [ownEntries, List.mem_cons, List.not_mem_nil, or_false] at own
    rcases own with rfl | rfl | rfl | rfl | rfl <;> exact ⟨.text _, rfl⟩
  · right; left
    unfold contextEntries at context
    split at context
    · cases context
    · rw [List.mem_singleton.mp context]
  · right; right
    obtain ⟨name, named, found⟩ := List.mem_filterMap.mp correlation
    obtain ⟨value, held, rfl⟩ := Option.map_eq_some_iff.mp found
    exact ⟨name, named, held⟩
  · left
    simp only [exceptionEntries, Option.mem_toList, Option.map_eq_some_iff] at exception
    obtain ⟨summary, _, rfl⟩ := exception
    refine ⟨.map (by simp) ?_, rfl⟩
    exact List.forall_mem_cons.mpr ⟨.text _, List.forall_mem_singleton.mpr (.text _)⟩

theorem Loggable.lineEntries (loggable : record.Loggable context) :
    (Value.map (record.lineEntries context stamp message)).Loggable := by
  refine .map (record.keys_nodup context stamp message) fun entry member => ?_
  rcases mem_lineEntries member with ⟨own, _⟩ | same | ⟨name, named, found⟩
  · exact own
  · rw [same]
    exact loggable.context
  · exact loggable.fields name named _ found

theorem holdsLong_lineEntries_iff :
    (Value.map (record.lineEntries context stamp message)).holdsLong = true
      ↔ record.HoldsLong context := by
  rw [Value.holdsLong, Value.someEntryLong_iff]
  constructor
  · intro long
    obtain ⟨entry, member, many⟩ := long
    rcases mem_lineEntries member with ⟨_, short⟩ | same | ⟨name, named, found⟩
    · rw [short] at many
      cases many
    · exact .inl (same ▸ many)
    · exact .inr ⟨name, named, entry.2, found, many⟩
  · rintro (long | ⟨name, named, value, found, long⟩)
    · have filled : context ≠ [] := by
        rintro rfl
        cases long
      refine ⟨("context", .map context), ?_, long⟩
      simp [Record.lineEntries, contextEntries, filled]
    · refine ⟨(name, value), ?_, long⟩
      simp only [Record.lineEntries, List.mem_append]
      refine .inr (.inr (.inl (List.mem_filterMap.mpr ⟨name, named, ?_⟩)))
      rw [found]
      rfl

end Values

end Record

/-- A line is printed in ASCII without a line break, and it is the text of one object with these
entries. -/
structure Decodes (line : String) (entries : List (String × Value)) : Prop where
  printable : ∀ c ∈ line.toList, IsPrintableAscii c
  unbroken : Text.Unbroken line
  decoded : ∃ document, Json.read? line.toList = some document ∧ Value.ofJson document = .map entries

theorem spaced_standard : Json.spaced.Standard where
  item := ⟨[' '], rfl, List.forall_mem_singleton.mpr rfl⟩
  key := ⟨[' '], rfl, List.forall_mem_singleton.mpr rfl⟩

theorem spaced_printable :
    ∀ c ∈ Json.spaced.itemSeparator ++ Json.spaced.keySeparator, IsPrintableAscii c := by
  have all : (Json.spaced.itemSeparator ++ Json.spaced.keySeparator).all
      (fun c => decide (IsPrintableAscii c)) = true := rfl
  exact fun c member => of_decide_eq_true (List.all_eq_true.mp all c member)

theorem decodes_write {document : Json} {entries : List (String × Value)}
    (written : Value.WrittenAs (.map entries) document) :
    Decodes (document.write Json.spaced) entries := by
  obtain ⟨image, readable⟩ := written
  have words : (document.write Json.spaced).toList = document.render Json.spaced :=
    String.toList_ofList
  have printable : ∀ c ∈ (document.write Json.spaced).toList, IsPrintableAscii c := by
    rw [words]
    exact fun c => Json.isPrintableAscii_of_mem_render rfl spaced_printable document
  refine ⟨printable, Text.unbroken_of_printable printable, document, ?_, image⟩
  rw [words]
  exact Json.read?_render spaced_standard readable

namespace Record

section Line

variable {record : Record} {context : Fields} {stamp message : String}

theorem jsonLine_eq (stamped : record.origin.stamp = .ok stamp)
    (filled : Template.fill record.template record.arguments = .ok message) :
    record.jsonLine context
      = ((Value.map (record.lineEntries context stamp message)).toJson .display).map
          fun document => document.write Json.spaced := by
  have entries : (("timestamp", Value.text stamp)
      :: [("level", Value.text record.level.name), ("logger", .text record.logger),
        ("message", .text message)])
      ++ ("source", .text record.origin.place)
        :: (Entry.tail ⟨⟨record.level, record.logger, message, record.fields, record.exception⟩,
          context⟩)
      = record.lineEntries context stamp message := by
    simp only [Entry.tail, lineEntries, ownEntries, List.append_assoc, List.cons_append,
      List.nil_append]
    rfl
  rw [jsonLine, stamped, toEntry, filled, ← entries]
  rfl

/-- A line is written unless an integer in it has too many digits. -/
theorem jsonLine_prints (loggable : record.Loggable context)
    (stamped : record.origin.stamp = .ok stamp)
    (filled : Template.fill record.template record.arguments = .ok message) :
    Value.Prints (fun line => ∃ entries, Decodes line entries ∧
        record.Reports context stamp message entries)
      (Value.map (record.lineEntries context stamp message)).holdsLong (record.jsonLine context) := by
  rw [jsonLine_eq stamped filled]
  exact loggable.lineEntries.toJson_prints.map _ fun document written =>
    ⟨_, decodes_write written, record.reports_lineEntries context stamp message⟩

/-- What a line needs: a moment that can be stamped and a message that can be put together. -/
theorem parts_of_jsonLine {line : String} (written : record.jsonLine context = .ok line) :
    ∃ stamp message, record.origin.stamp = .ok stamp ∧
      Template.fill record.template record.arguments = .ok message := by
  obtain ⟨stamp, stamped, written⟩ := Result.bind_eq_ok written
  obtain ⟨entry, entered, -⟩ := Result.bind_eq_ok written
  obtain ⟨message, filled, -⟩ := Result.map_eq_ok entered
  exact ⟨stamp, message, stamped, filled⟩

end Line

/-- A record has a line exactly when its moment can be stamped, its message can be put together and
no integer in it has more digits than are printed.  The line is printable ASCII without a line break
and decodes to one object, which says what the record and the context say, and nothing else.  Writer
and reader have room for any nesting of the context. -/
theorem log_lines_are_faithful {record : Record} {context : Fields}
    (loggable : record.Loggable context) :
    ((∃ line, record.jsonLine context = .ok line) ↔
      (∃ stamp, record.origin.stamp = .ok stamp) ∧
      (∃ message, Template.fill record.template record.arguments = .ok message) ∧
      ¬ record.HoldsLong context) ∧
    ∀ stamp message, record.origin.stamp = .ok stamp →
      Template.fill record.template record.arguments = .ok message →
      (record.HoldsLong context →
        record.jsonLine context = .error (.unprintable Number.maxIntegerDigits)) ∧
      ∀ line, record.jsonLine context = .ok line →
        ∃ entries, Decodes line entries ∧ record.Reports context stamp message entries := by
  have long {stamp message : String} (stamped : record.origin.stamp = .ok stamp)
      (filled : Template.fill record.template record.arguments = .ok message)
      (many : record.HoldsLong context) :
      record.jsonLine context = .error (.unprintable Number.maxIntegerDigits) := by
    have prints := jsonLine_prints loggable stamped filled
    rw [holdsLong_lineEntries_iff.mpr many] at prints
    exact prints.of_long
  have short {stamp message : String} (stamped : record.origin.stamp = .ok stamp)
      (filled : Template.fill record.template record.arguments = .ok message)
      (few : ¬ record.HoldsLong context) :
      ∃ line, record.jsonLine context = .ok line ∧
        ∃ entries, Decodes line entries ∧ record.Reports context stamp message entries := by
    have prints := jsonLine_prints loggable stamped filled
    rw [Bool.eq_false_iff.mpr (mt holdsLong_lineEntries_iff.mp few)] at prints
    exact prints.of_short
  refine ⟨⟨?_, ?_⟩, fun stamp message stamped filled => ⟨long stamped filled, ?_⟩⟩
  · rintro ⟨line, written⟩
    obtain ⟨stamp, message, stamped, filled⟩ := parts_of_jsonLine written
    refine ⟨⟨stamp, stamped⟩, ⟨message, filled⟩, fun many => ?_⟩
    cases written.symm.trans (long stamped filled many)
  · rintro ⟨⟨stamp, stamped⟩, ⟨message, filled⟩, few⟩
    obtain ⟨line, written, _⟩ := short stamped filled few
    exact ⟨line, written⟩
  · intro line written
    by_cases many : record.HoldsLong context
    · cases written.symm.trans (long stamped filled many)
    · obtain ⟨own, same, reported⟩ := short stamped filled many
      cases written.symm.trans same
      exact reported

/-- A record on the first line of a file, with one correlation field. -/
def plainRecord (message name : String) (value : Value) : Record where
  level := .error
  logger := "test"
  template := message
  arguments := ⟨[], none⟩
  fields := [(name, value)]
  exception := some ⟨"ReadError", "broken\npipe"⟩
  origin := ⟨.ofSeconds 1704164645, 1704164645, "mod.py", "fn", 1⟩

theorem plainRecord_loggable (message name : String) {value : Value} (loggable : value.Loggable)
    {context : Fields} (bound : (Value.map context).Loggable) :
    (plainRecord message name value).Loggable context where
  context := bound
  fields other _ held found := by
    rw [plainRecord, Entries.lookup] at found
    split at found
    · cases found
      exact loggable
    · cases found

theorem plainRecord_stamped (message name : String) (value : Value) :
    ∃ stamp, (plainRecord message name value).origin.stamp = .ok stamp := by
  have dated : (Calendar.EpochTime.ofSeconds 1704164645).moment?.isSome = true := by
    decide +kernel
  obtain ⟨moment, found⟩ := Option.isSome_iff_exists.mp dated
  exact ⟨moment.isoText, by simp only [plainRecord, Origin.stamp, found]⟩

/-- A message with a forged entry, a context with the key of the level, and a tuple of objects. -/
theorem forged_entries_stay_inside :
    let forged := "paid\", \"level\": \"DEBUG\"\r\n"
    let context : Fields := [("level", .text "DEBUG"), ("exception", .null)]
    let record := plainRecord forged "application_id" (.tuple [.foreign "1.50", .text forged])
    record.Loggable context ∧ ∃ line entries, record.jsonLine context = .ok line ∧
      Decodes line entries ∧ Entries.lookup "message" entries = some (.text forged) ∧
      Entries.lookup "level" entries = some (.text "ERROR") ∧
      Entries.lookup "application_id" entries = some (.list [.text "1.50", .text forged]) ∧
      Entries.lookup "context" entries = some (.map context) ∧
      Entries.lookup "lender_id" entries = none := by
  intro forged context record
  have loggable : record.Loggable context := by
    refine plainRecord_loggable forged "application_id" (.tuple ?_) (.map (by decide) ?_)
    · exact List.forall_mem_cons.mpr ⟨.foreign _, List.forall_mem_singleton.mpr (.text _)⟩
    · exact List.forall_mem_cons.mpr ⟨.text _, List.forall_mem_singleton.mpr .null⟩
  have short : ¬ record.HoldsLong context := by
    rintro (long | ⟨name, _, value, found, long⟩)
    · cases long
    · simp only [record, plainRecord, Entries.lookup] at found
      split at found
      · cases found
        cases long
      · cases found
  obtain ⟨stamp, stamped⟩ := plainRecord_stamped forged "application_id"
    (.tuple [.foreign "1.50", .text forged])
  obtain ⟨written, reported⟩ := log_lines_are_faithful loggable
  obtain ⟨line, made⟩ := written.mpr ⟨⟨stamp, stamped⟩, ⟨forged, rfl⟩, short⟩
  obtain ⟨entries, decodes, reports⟩ := (reported stamp forged stamped rfl).2 line made
  refine ⟨loggable, line, entries, made, decodes, reports.message, reports.level, ?_,
    reports.context, ?_⟩
  · rw [reports.correlation _ (by decide)]
    rfl
  · rw [reports.correlation _ (by decide)]
    simp [record, plainRecord, Entries.lookup]

/-- An attempt with more digits than are printed keeps the line from being written. -/
theorem long_attempt_has_no_line :
    let record := plainRecord "Retrying" "attempt" (.int (Number.tenTo Number.maxIntegerDigits))
    record.Loggable [] ∧
      record.jsonLine [] = .error (.unprintable Number.maxIntegerDigits) := by
  intro record
  have loggable : record.Loggable [] :=
    plainRecord_loggable _ "attempt" (.int _) (.map List.nodup_nil nofun)
  have digits : Value.isLong (Number.tenTo Number.maxIntegerDigits) = true :=
    Value.isLong_iff.mpr (Nat.le_of_eq (Int.natAbs_natCast _).symm)
  have long : record.HoldsLong [] := .inr ⟨"attempt", by decide, _, rfl, digits⟩
  obtain ⟨stamp, stamped⟩ := plainRecord_stamped "Retrying" "attempt"
    (.int (Number.tenTo Number.maxIntegerDigits))
  have prints := jsonLine_prints loggable stamped rfl
  rw [holdsLong_lineEntries_iff.mpr long] at prints
  exact ⟨loggable, prints.of_long⟩

end Record

end Log

end LoanDispatch
