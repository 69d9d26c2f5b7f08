import LoanDispatch.Text.Quoted

/-!
Texts of code points.  A text from outside may hold half of a surrogate pair on its own, which is a
code point and no character.
-/

set_option autoImplicit false

namespace LoanDispatch.Text

inductive Point where
  | char (c : Char)
  /-- Half of a surrogate pair, by its distance from the first of all halves. -/
  | half (offset : Fin 0x800)
  deriving DecidableEq

namespace Point

def firstHalf : Nat := 0xD800

def ofNat? (n : Nat) : Option Point :=
  if valid : n.isValidChar then some (.char (Char.ofNatAux n valid))
  else if among : n - firstHalf < 0x800 then some (.half ⟨n - firstHalf, among⟩)
  else none

def ofChars (cs : List Char) : List Point := cs.map .char

def char? : Point → Option Char
  | .char c => some c
  | .half _ => none

/-- The characters of a text that has no half on its own. -/
def chars? (points : List Point) : Option (List Char) := points.mapM char?

/-- The text with the replacement character for each half on its own. -/
def settle (points : List Point) : String :=
  String.ofList (points.map fun point => point.char?.getD (Char.ofNat 0xFFFD))

def literalChars (quote : Char) : Point → List Char
  | .char c => literalChar quote c
  | .half offset => escapeCode (firstHalf + offset)

/-- The literal of a text; a half on its own is escaped. -/
def literal (points : List Point) : String :=
  let quote := literalQuote (points.filterMap char?)
  String.ofList (quote :: points.flatMap (literalChars quote) ++ [quote])

theorem ofNat?_toNat (c : Char) : ofNat? c.toNat = some (.char c) := by
  rw [ofNat?, dif_pos (show c.toNat.isValidChar from c.valid)]
  rfl

theorem ofChars_append (front back : List Char) :
    ofChars (front ++ back) = ofChars front ++ ofChars back := List.map_append

theorem chars?_ofChars (cs : List Char) : chars? (ofChars cs) = some cs := by
  induction cs with
  | nil => rfl
  | cons c cs ih =>
    rw [chars?, ofChars] at ih
    simp [chars?, ofChars, char?, ih]

theorem ofChars_inj {one two : List Char} (same : ofChars one = ofChars two) : one = two := by
  have read := congrArg chars? same
  rw [chars?_ofChars, chars?_ofChars] at read
  exact Option.some.inj read

theorem settle_ofChars (cs : List Char) : settle (ofChars cs) = String.ofList cs := by
  simp [settle, ofChars, char?, Function.comp_def]

theorem literal_ofChars (cs : List Char) : literal (ofChars cs) = Text.literal (String.ofList cs) := by
  have own (quote : Char) : (ofChars cs).flatMap (literalChars quote) = cs.flatMap (literalChar quote) :=
    List.flatMap_map ..
  have shown : (ofChars cs).filterMap char? = cs := by
    rw [ofChars, List.filterMap_map]
    exact List.filterMap_some
  rw [literal, shown, Text.literal, Text.literalChars, String.toList_ofList]
  simp only [own]

end Point

end LoanDispatch.Text
