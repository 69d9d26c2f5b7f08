import LoanDispatch.Json.Encoding
import LoanDispatch.Script.Outcome
import LoanDispatch.Script.Request
import LoanDispatch.Value.Display
import LoanDispatch.Value.OfJson

/-!
The reference inside a reply.  The body is a JSON object that names it under one of two names; a part
that is no text is named by its literal.
-/

set_option autoImplicit false

namespace LoanDispatch

open Text

namespace Json.Raw

mutual

def literal : Raw → String
  | .null => "None"
  | .bool flag => Value.boolText flag
  | .int number => toString number
  | .float number => number.shortestText
  | .text points => Point.literal points
  | .array items => "[" ++ join ", " (literals items) ++ "]"
  | .object entries => "\x7b" ++ join ", " (entryLiterals entries) ++ "\x7d"

def literals : List Raw → List String
  | [] => []
  | item :: rest => item.literal :: literals rest

def entryLiterals : List (List Point × Raw) → List String
  | [] => []
  | (key, value) :: rest => (Point.literal key ++ ": " ++ value.literal) :: entryLiterals rest

end

/-- A part as the text that refers to it. -/
def shown : Raw → Reference
  | .text points => .ofPoints points
  | part => .whole (.text part.literal)

mutual

theorem literal_ofJson :
    (document : Json) → (ofJson document).literal = (Value.ofJson document).literal
  | .null | .bool _ | .int _ | .float _ => rfl
  | .text words => by
    rw [ofJson, literal, Point.literal_ofChars, String.ofList_toList]
    rfl
  | .array items => by
    rw [ofJson, literal, literals_ofItems items]
    rfl
  | .object entries => by
    rw [ofJson, literal, entryLiterals_ofEntries entries]
    rfl

theorem literals_ofItems :
    (items : List Json) → literals (ofItems items) = Value.literals (Value.ofJsonItems items)
  | [] => rfl
  | item :: rest => by
    rw [ofItems, literals, literal_ofJson item, literals_ofItems rest]
    rfl

theorem entryLiterals_ofEntries :
    (entries : List (String × Json)) →
      entryLiterals (ofEntries entries) = Value.entryLiterals (Value.ofJsonEntries entries)
  | [] => rfl
  | (key, value) :: rest => by
    rw [ofEntries, entryLiterals, Point.literal_ofChars, String.ofList_toList,
      literal_ofJson value, entryLiterals_ofEntries rest]
    rfl

end

end Json.Raw

namespace Partner

/-- A part refers to something unless it is null or empty. -/
def reference? : Json.Raw → Option Reference
  | .null => none
  | .text [] => none
  | part => some part.shown

/-- The reference inside a reply: the first of two entries that refers to something. -/
def referenceOf (reply : PartnerReply) : Except Misfit Reference :=
  match Json.readBody reply.room reply.body with
  | .ok (.object entries) =>
    let found := ["reference", "id"].findSome? fun name =>
      (Entries.lookup (Point.ofChars name.toList) entries).bind reference?
    .ok (found.getD (.whole .null))
  | .error (.tooDeep kind) => .error (.tooDeep kind)
  | _ => .ok (.whole .null)

end Partner

end LoanDispatch
