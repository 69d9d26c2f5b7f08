import LoanDispatch.Value.Dictionary

/-!
Values as sequences: the first item, the items after it, and the search for a text.
-/

set_option autoImplicit false

namespace LoanDispatch.Value

/-- The items of a sequence or the characters of a text. -/
def sequence? : Value → Option (List Value)
  | .list items => some items
  | .tuple items => some items
  | value => value.text?.map fun words => words.toList.map fun c => .text c.toString

/-- The first item of a sequence that is not empty; a mapping has none. -/
def first (value : Value) : Except Misfit Value :=
  match value.sequence? with
  | some (item :: _) => .ok item
  | some [] => .error .emptySequence
  | none =>
    match value with
    | .map _ => .error (.missingKey "0")
    | _ => .error (.notSubscriptable value.kindName)

def afterFirst (value : Value) : Except Misfit (List Value) :=
  match value.sequence? with
  | some items => .ok items.tail
  | none =>
    match value with
    | .map _ => .error (.unhashable "slice")
    | _ => .error (.notSubscriptable value.kindName)

/-- The text is among the items of a list or the keys of a mapping, or it is a part of a text. -/
def includes (words : String) (value : Value) : Except Misfit Bool :=
  match value with
  | .list items | .tuple items => .ok (items.any fun item => item.text? == some words)
  | .map entries => .ok (entries.any fun entry => entry.1 == words)
  | _ =>
    match value.text? with
    | some whole => .ok (Text.occursIn words.toList whole.toList)
    | none => .error (.notContainer value.kindName)

end LoanDispatch.Value
