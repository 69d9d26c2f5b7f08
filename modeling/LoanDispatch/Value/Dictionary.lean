import LoanDispatch.Fault.Misfit
import LoanDispatch.Value.Display

/-!
Mappings out of values.  `asEntries` reads a mapping or a sequence of pairs as entries;
`toDictionary` is the serialised form of a record.
-/

set_option autoImplicit false

namespace LoanDispatch.Value

open Number

mutual

/-- The kind of the first part of a value that keeps it from being a key: a list or a mapping. -/
def unhashablePart? : Value → Option String
  | .list _ => some "list"
  | .map _ => some "dict"
  | .tuple items => unhashableItem? items
  | .record _ fields => unhashableField? fields
  | _ => none

def unhashableItem? : List Value → Option String
  | [] => none
  | item :: rest => item.unhashablePart?.or (unhashableItem? rest)

def unhashableField? : List (String × Value) → Option String
  | [] => none
  | (_, value) :: rest => value.unhashablePart?.or (unhashableField? rest)

end

/-- The text of a value that serves as a key.  A mapping only has texts as keys, so a key of another
kind is kept as the text that JSON writes for it, and is then one with that text. -/
def keyText (value : Value) : Except Misfit String :=
  match value.unhashablePart? with
  | some kind => .error (.unhashable kind)
  | none =>
    .ok (match value with
      | .text words => words
      | .null => "null"
      | .bool flag => if flag then "true" else "false"
      | _ => value.display)

/-- An element that stands for an entry: two characters, two items, or the two keys of a mapping. -/
def asEntry (index : Nat) : Value → Except Misfit (String × Value)
  | .text words =>
    match words.toList with
    | [key, value] => .ok (key.toString, .text value.toString)
    | cs => .error (.pairLength index cs.length)
  | .channel member => .error (.pairLength index member.code.length)
  | .list [key, value] | .tuple [key, value] => key.keyText.map fun key => (key, value)
  | .list items | .tuple items => .error (.pairLength index items.length)
  | .map [key, value] => .ok (key.1, .text value.1)
  | .map entries => .error (.pairLength index entries.length)
  | _ => .error (.notPair index)

/-- Entries of a sequence of pairs; of equal keys the last counts, in the first one's place. -/
def asEntriesFrom (index : Nat) (entries : List (String × Value)) :
    List Value → Except Misfit (List (String × Value))
  | [] => .ok entries
  | item :: rest =>
    match item.asEntry index with
    | .ok entry => asEntriesFrom (index + 1) (Entries.insert entry.1 entry.2 entries) rest
    | .error misfit => .error misfit

/-- The entries of a mapping or of a sequence of pairs. -/
def asEntries : Value → Except Misfit (List (String × Value))
  | .map entries => .ok entries
  | .list items | .tuple items => asEntriesFrom 0 [] items
  | .text words => if words = "" then .ok [] else .error (.pairLength 0 1)
  | .channel _ => .error (.pairLength 0 1)
  | value => .error (.notIterable value.kindName)

/-- The items that a value is iterated over: a text gives its characters and a mapping its keys. -/
def iterate : Value → Except Misfit (List Value)
  | .list items | .tuple items => .ok items
  | .map entries => .ok (entries.map fun entry => .text entry.1)
  | .text words => .ok (words.toList.map fun c => .text c.toString)
  | .channel member => .ok (member.code.toList.map fun c => .text c.toString)
  | value => .error (.notIterable value.kindName)

def isoText : Value → Except Misfit String
  | .dateTime moment => .ok moment.isoText
  | .date day => .ok day.isoText
  | value => .error (.noAttribute value.kindName "isoformat")

/-- The stored text of a channel; any other value is kept. -/
def plainChannel : Value → Value
  | .channel member => .text member.code
  | value => value

end LoanDispatch.Value

namespace LoanDispatch.RecordKind

inductive FieldForm where
  | kept
  | mapping
  | record
  | records
  | moment
  | channel
  deriving DecidableEq

/-- The fields of a serialised record in order: the written name, the field, and its form.  Two
kinds have no serialised form. -/
def dictionaryLayout? : RecordKind → Option (List (String × String × FieldForm))
  | .application => some
    [("id", "id", .kept), ("owner_user_id", "owner_user_id", .kept), ("name", "name", .kept),
     ("metadata", "metadata", .mapping), ("product_type", "product_type", .kept),
     ("lender_id", "lender_id", .kept), ("lender_product_id", "lender_product_id", .kept),
     ("requested_amount", "requested_amount", .kept)]
  | .document => some
    [("document_id", "document_id", .kept), ("document_type", "document_type", .kept),
     ("title", "title", .kept), ("version_id", "version_id", .kept), ("version", "version", .kept),
     ("metadata", "metadata", .mapping), ("content", "content", .kept)]
  | .payload => some
    [("application", "application", .record), ("documents", "documents", .records),
     ("submitted_at", "submitted_at", .moment)]
  | .response => some
    [("status", "status", .kept), ("detail", "detail", .kept),
     ("received_at", "received_at", .kept),
     ("external_reference", "external_reference", .kept)]
  | .result => some
    [("success", "success", .kept), ("response", "response", .record),
     ("failure_reason", "failure_reason", .kept), ("retryable", "retryable", .kept)]
  | .sheetConfig => some
    [("spreadsheetId", "spreadsheet_id", .kept), ("sheetName", "sheet_name", .kept),
     ("columnMapVersion", "column_map_version", .kept)]
  | .profile => some
    [("lender_id", "lender_id", .kept), ("lender_name", "lender_name", .kept),
     ("method", "method", .channel), ("submission_email", "submission_email", .kept),
     ("submission_config", "submission_config", .kept)]
  | .lenderRow | .columnMap => none

def fieldForm (kind : RecordKind) (field : String) : FieldForm :=
  match (kind.dictionaryLayout?.getD []).find? fun place => place.2.1 == field with
  | some place => place.2.2
  | none => .kept

/-- Puts serialised fields into the order of the layout, under their written names. -/
def arrange {α : Type} (layout : List (String × String × FieldForm)) (fields : List (String × α)) :
    List (String × α) :=
  layout.filterMap fun place =>
    (fields.find? fun field => field.1 == place.2.1).map fun field => (place.1, field.2)

end LoanDispatch.RecordKind

namespace LoanDispatch.Value

mutual

def toDictionary : Value → Except Misfit Value
  | .record kind fields =>
    match kind.dictionaryLayout? with
    | none => .error (.noAttribute kind.name "to_dict")
    | some layout =>
      match dictionaryFields kind fields with
      | .ok parts => .ok (.map (RecordKind.arrange layout parts))
      | .error misfit => .error misfit
  | value => .error (.noAttribute value.kindName "to_dict")

def dictionaryFields (kind : RecordKind) :
    List (String × Value) → Except Misfit (List (String × Value))
  | [] => .ok []
  | (field, value) :: rest => do
    let part ←
      match kind.fieldForm field with
      | .kept => .ok value
      | .mapping => value.asEntries.map .map
      | .record => value.toDictionary
      | .records => value.itemDictionaries.map .list
      | .moment => value.isoText.map .text
      | .channel => .ok value.plainChannel
    let parts ← dictionaryFields kind rest
    return (field, part) :: parts

def itemDictionaries : Value → Except Misfit (List Value)
  | .list items | .tuple items => dictionaries items
  | .map entries => if entries.isEmpty then .ok [] else .error (.noAttribute "str" "to_dict")
  | .text words => if words = "" then .ok [] else .error (.noAttribute "str" "to_dict")
  | .channel _ => .error (.noAttribute "str" "to_dict")
  | value => .error (.notIterable value.kindName)

def dictionaries : List Value → Except Misfit (List Value)
  | [] => .ok []
  | item :: rest => do
    let first ← item.toDictionary
    let others ← dictionaries rest
    return first :: others

end

end LoanDispatch.Value
