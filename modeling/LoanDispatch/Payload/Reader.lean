import LoanDispatch.Calendar.Reader
import LoanDispatch.Payload.Basic
import LoanDispatch.Value.Integer
import LoanDispatch.Value.Printed

/-!
Building a snapshot from a plain mapping, such as a queued message.  Missing texts become empty,
missing numbers zero and a missing time the present; identifiers are turned into texts, versions
into integers and metadata into mappings, and everything else is kept as it is.
-/

set_option autoImplicit false

namespace LoanDispatch

namespace Value

/-- The entries that a value is looked up in by name. -/
def namedEntries : Value → Except Misfit (List (String × Value))
  | .map entries => .ok entries
  | value => .error (.noAttribute value.kindName "get")

def entryAt (key : String) : Value → Except Misfit Value
  | .map entries =>
    match Entries.lookup key entries with
    | some value => .ok value
    | none => .error (.missingKey (Text.literal key))
  | .list _ => .error (.badPosition "list" "str")
  | .tuple _ => .error (.badPosition "tuple" "str")
  | .text _ => .error (.badPosition "str" "str")
  | value => .error (.notSubscriptable value.kindName)

end Value

/-- Reads a time stamp text; the letter that marks universal time stands for its offset. -/
def readStamp (words : String) : Except Misfit Calendar.DateTime :=
  let plain := Text.replaceChar 'Z' ['+', '0', '0', ':', '0', '0'] words
  match Calendar.DateTime.read? plain with
  | some moment => .ok moment
  | none => .error (.badMoment plain)

/-- A time stamp: a text is read, another given value is kept, and a missing one is the present. -/
def stampOf (now : Calendar.DateTime) (value : Value) : Except Misfit Value :=
  match value.text? with
  | some words => (readStamp words).map .dateTime
  | none => .ok (value.orElse (.dateTime now))

namespace Application

def ofValue (value : Value) : Except Misfit Application := do
  let id ← (← value.entryAt "id").printed
  let entries ← value.namedEntries
  let get (name : String) := Value.getD name entries
  let metadata ← ((get "metadata").orElse (.map [])).asEntries
  return { id := .text id
           name := (get "name").orElse (.text "")
           ownerUserId := get "owner_user_id"
           metadata := .map metadata
           productType := (get "product_type").orElse (.text "")
           lenderId := get "lender_id"
           lenderProductId := get "lender_product_id"
           requestedAmount := get "requested_amount" }

end Application

namespace Document

def ofValue (value : Value) : Except Misfit Document := do
  let documentId ← (← value.entryAt "document_id").printed
  let entries ← value.namedEntries
  let get (name : String) := Value.getD name entries
  let versionId ← ((get "version_id").orElse (.text "")).printed
  let version ← ((get "version").orElse (.int 0)).toInteger
  let metadata ← ((get "metadata").orElse (.map [])).asEntries
  return { documentId := .text documentId
           documentType := (get "document_type").orElse (.text "")
           title := (get "title").orElse (.text "")
           versionId := .text versionId
           version := .int version
           metadata := .map metadata
           content := (get "content").orElse (.text "") }

end Document

namespace Payload

def ofValue (now : Calendar.DateTime) (value : Value) : Except Misfit Payload := do
  let entries ← value.namedEntries
  let get (name : String) := Value.getD name entries
  let submittedAt ← stampOf now (get "submitted_at")
  let application ← Application.ofValue ((get "application").orElse (.map []))
  let items ← ((get "documents").orElse (.list [])).iterate
  let documents ← items.mapM Document.ofValue
  return ⟨application, documents, submittedAt⟩

end Payload

end LoanDispatch
