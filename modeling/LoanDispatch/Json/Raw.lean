import LoanDispatch.Json.Basic
import LoanDispatch.Text.Point

/-!
JSON documents as they are read.  Their texts and keys are texts of code points, which need not be
texts of characters.
-/

set_option autoImplicit false

namespace LoanDispatch.Json

open Text

inductive Raw where
  | null
  | bool (flag : Bool)
  | int (number : Int)
  | float (number : Number.Binary64)
  | text (points : List Point)
  | array (items : List Raw)
  | object (entries : List (List Point × Raw))

namespace Raw

instance : Inhabited Raw := ⟨.null⟩

mutual

def ofJson : Json → Raw
  | .null => .null
  | .bool flag => .bool flag
  | .int number => .int number
  | .float number => .float number
  | .text words => .text (Point.ofChars words.toList)
  | .array items => .array (ofItems items)
  | .object entries => .object (ofEntries entries)

def ofItems : List Json → List Raw
  | [] => []
  | item :: rest => ofJson item :: ofItems rest

def ofEntries : List (String × Json) → List (List Point × Raw)
  | [] => []
  | (key, value) :: rest => (Point.ofChars key.toList, ofJson value) :: ofEntries rest

end

mutual

/-- The document with the replacement character for each half of a surrogate pair on its own. -/
def settle : Raw → Json
  | .null => .null
  | .bool flag => .bool flag
  | .int number => .int number
  | .float number => .float number
  | .text points => .text (Point.settle points)
  | .array items => .array (settleItems items)
  | .object entries => .object (settleEntries entries)

def settleItems : List Raw → List Json
  | [] => []
  | item :: rest => item.settle :: settleItems rest

def settleEntries : List (List Point × Raw) → List (String × Json)
  | [] => []
  | (key, value) :: rest => (Point.settle key, value.settle) :: settleEntries rest

end

mutual

theorem settle_ofJson : (document : Json) → (ofJson document).settle = document
  | .null | .bool _ | .int _ | .float _ => rfl
  | .text words => by rw [ofJson, settle, Point.settle_ofChars, String.ofList_toList]
  | .array items => by rw [ofJson, settle, settleItems_ofItems items]
  | .object entries => by rw [ofJson, settle, settleEntries_ofEntries entries]

theorem settleItems_ofItems : (items : List Json) → settleItems (ofItems items) = items
  | [] => rfl
  | item :: rest => by rw [ofItems, settleItems, settle_ofJson item, settleItems_ofItems rest]

theorem settleEntries_ofEntries :
    (entries : List (String × Json)) → settleEntries (ofEntries entries) = entries
  | [] => rfl
  | (key, value) :: rest => by
    rw [ofEntries, settleEntries, Point.settle_ofChars, String.ofList_toList, settle_ofJson value,
      settleEntries_ofEntries rest]

end

end Raw

end LoanDispatch.Json
