import LoanDispatch.Json.Basic
import LoanDispatch.Value.Dictionary
import LoanDispatch.Value.Printed

/-!
Values as JSON documents.  A policy says what becomes of dates, foreign objects and records, which
JSON does not know: a cell describes them, a log line displays them, and a request body refuses
them.  An integer with more digits than are printed is written nowhere; otherwise a value is written
however deep it nests, since only a reader is short of room.
-/

set_option autoImplicit false

namespace LoanDispatch.Value

/-- What becomes of a value that JSON does not know. -/
inductive ForeignPolicy where
  /-- Dates are ISO texts, records their serialised forms; a record without one gives its fields,
  and so does then every record inside it. -/
  | describe (fieldsOnly : Bool)
  | display
  /-- Such values and numbers that are not finite are refused. -/
  | refuse
  deriving DecidableEq

def ForeignPolicy.apply (policy : ForeignPolicy) (described displayed kind : String) :
    Except Misfit Json :=
  match policy with
  | .describe _ => .ok (.text described)
  | .display => .ok (.text displayed)
  | .refuse => .error (.notSerializable kind)

/-- A key and a document, or the first of their misfits. -/
def keyedJson (key : Except Misfit String) (document : Except Misfit Json) :
    Except Misfit (String × Json) :=
  match key, document with
  | .ok key, .ok document => .ok (key, document)
  | .error misfit, _ => .error misfit
  | .ok _, .error misfit => .error misfit

mutual

def toJson (policy : ForeignPolicy) : Value → Except Misfit Json
  | .null => .ok .null
  | .bool flag => .ok (.bool flag)
  | .int number =>
    if isLong number then .error (.unprintable Number.maxIntegerDigits) else .ok (.int number)
  | .float number =>
    if policy = .refuse ∧ !number.isFinite then .error .notFinite else .ok (.float number)
  | .text words => .ok (.text words)
  | .list items => (itemsJson policy items).map .array
  | .tuple items => (itemsJson policy items).map .array
  | .map entries => (entriesJson policy entries).map .object
  | .dateTime moment => policy.apply moment.isoText (moment.textWith " ") "datetime"
  | .date day => policy.apply day.isoText day.isoText "date"
  | .channel member => .ok (.text member.code)
  | .foreign words => policy.apply words words "Decimal"
  | .record kind fields =>
    match policy with
    | .display => (printed (.record kind fields)).map .text
    | .refuse => .error (.notSerializable kind.name)
    | .describe true => (entriesJson policy fields).map .object
    | .describe false =>
      match kind.dictionaryLayout? with
      | none => (entriesJson (.describe true) fields).map .object
      | some layout =>
        match toDictionary (.record kind fields) with
        | .error misfit => .error misfit
        | .ok _ =>
          (fieldsJson kind fields).map fun parts => .object (RecordKind.arrange layout parts)

def itemsJson (policy : ForeignPolicy) : List Value → Except Misfit (List Json)
  | [] => .ok []
  | item :: rest => do
    let first ← item.toJson policy
    let others ← itemsJson policy rest
    return first :: others

def entriesJson (policy : ForeignPolicy) :
    List (String × Value) → Except Misfit (List (String × Json))
  | [] => .ok []
  | (key, value) :: rest => do
    let first ← value.toJson policy
    let others ← entriesJson policy rest
    return (key, first) :: others

/-- The documents of a record's fields in their serialised forms. -/
def fieldsJson (kind : RecordKind) : List (String × Value) → Except Misfit (List (String × Json))
  | [] => .ok []
  | (field, value) :: rest => do
    let first ←
      match kind.fieldForm field with
      | .mapping => (mappingJson value).map .object
      | .moment => value.isoText.map .text
      | _ => value.toJson (.describe false)
    let others ← fieldsJson kind rest
    return (field, first) :: others

/-- The document of a mapping or of a sequence of pairs. -/
def mappingJson : Value → Except Misfit (List (String × Json))
  | .map entries => entriesJson (.describe false) entries
  | .list items => pairsJson 0 [] items
  | .tuple items => pairsJson 0 [] items
  | value => value.asEntries.map fun _ => []

def pairsJson (index : Nat) (entries : List (String × Json)) :
    List Value → Except Misfit (List (String × Json))
  | [] => .ok entries
  | item :: rest =>
    match pairJson index item with
    | .error misfit => .error misfit
    | .ok (key, document) => pairsJson (index + 1) (Entries.insert key document entries) rest

/-- The document of an element that stands for an entry. -/
def pairJson (index : Nat) : Value → Except Misfit (String × Json)
  | .list [key, value] => keyedJson key.keyText (value.toJson (.describe false))
  | .tuple [key, value] => keyedJson key.keyText (value.toJson (.describe false))
  | other => (asEntry index other).map fun entry => (entry.1, .text (entry.2.text?.getD ""))

end

end LoanDispatch.Value
