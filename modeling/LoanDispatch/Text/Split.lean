/-!
Cutting and replacing in texts, over lists of characters.
-/

set_option autoImplicit false

namespace LoanDispatch.Text

/-- The pieces between the occurrences of a separator; there is always at least one piece. -/
def splitChars (separator : Char) : List Char → List (List Char)
  | [] => [[]]
  | c :: rest =>
    if c = separator then [] :: splitChars separator rest
    else
      match splitChars separator rest with
      | [] => [[c]]
      | piece :: pieces => (c :: piece) :: pieces

/-- The dotted segments of a text, or the pieces at any other separator. -/
def split (separator : Char) (s : String) : List String :=
  (splitChars separator s.toList).map String.ofList

def replaceChar (target : Char) (image : List Char) (s : String) : String :=
  String.ofList (s.toList.flatMap fun c => if c = target then image else [c])

/-- Replaces every occurrence, from the left, of two adjacent characters by one character. -/
def replacePair (first second image : Char) : List Char → List Char
  | a :: b :: rest =>
    if a = first ∧ b = second then image :: replacePair first second image rest
    else a :: replacePair first second image (b :: rest)
  | cs => cs

def join (separator : String) : List String → String
  | [] => ""
  | [piece] => piece
  | piece :: pieces => piece ++ separator ++ join separator pieces

/-- The part after the last occurrence of a character, or the whole text when there is none. -/
def afterLast (separator : Char) (cs : List Char) : List Char :=
  (cs.reverse.takeWhile (· ≠ separator)).reverse

/-- The characters occur next to each other in a text. -/
def occursIn (part : List Char) : List Char → Bool
  | [] => part.isEmpty
  | c :: rest => part.isPrefixOf (c :: rest) || occursIn part rest

/-- A text filled with spaces at the end up to a width. -/
def padEnd (width : Nat) (s : String) : String :=
  s ++ String.ofList (List.replicate (width - s.length) ' ')

/-- A digit text filled with zeros at the front up to a width. -/
def padZeros (width : Nat) (n : Nat) : String :=
  let digits := toString n
  String.ofList (List.replicate (width - digits.length) '0') ++ digits

end LoanDispatch.Text
