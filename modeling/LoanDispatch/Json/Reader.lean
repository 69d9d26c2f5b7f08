import LoanDispatch.Json.Raw
import LoanDispatch.Number.Reading

/-!
Reading JSON documents.  The words for numbers that are not finite are read, control characters
inside strings are refused, the last of equal keys counts, and nothing but blanks may follow the
document.  A reader has room for so many brackets around a part, and stops at the first bracket for
which there is no room.
-/

set_option autoImplicit false

namespace LoanDispatch.Json

open Number Text

/-- Why a text is read as no document. -/
inductive Unreadable where
  | malformed
  /-- An array or an object, named by `kind`, nests deeper than there is room for. -/
  | tooDeep (kind : String)
  deriving DecidableEq

/-- The value of a part, or the failure of a text that does not hold one there. -/
def ofPart {α : Type} : Option α → Except Unreadable α
  | some part => .ok part
  | none => .error .malformed

/-- The room that is left behind the opening bracket of an array or an object. -/
def enter (kind : String) : Nat → Except Unreadable Nat
  | 0 => .error (.tooDeep kind)
  | room + 1 => .ok room

def leftBrace : Point := .char (Char.ofNat 123)

def rightBrace : Point := .char (Char.ofNat 125)

def quoteMark : Point := .char doubleQuote

def isJsonBlank (c : Char) : Bool := c = ' ' || c = '\t' || c = '\n' || c = '\r'

def isBlankPoint (point : Point) : Bool := point.char?.any isJsonBlank

def skipBlanks (points : List Point) : List Point := points.dropWhile isBlankPoint

def isControl (point : Point) : Bool := point.char?.any fun c => c.toNat < 32

def hexValue? (c : Char) : Option Nat :=
  let n := c.toNat
  if 48 ≤ n ∧ n ≤ 57 then some (n - 48)
  else if 97 ≤ n ∧ n ≤ 102 then some (n - 87)
  else if 65 ≤ n ∧ n ≤ 70 then some (n - 55)
  else none

def takeUnit? : List Point → Option (Nat × List Point)
  | .char a :: .char b :: .char c :: .char d :: rest => do
    let w ← hexValue? a
    let x ← hexValue? b
    let y ← hexValue? c
    let z ← hexValue? d
    return (((w * 16 + x) * 16 + y) * 16 + z, rest)
  | _ => none

/-- The second half of a surrogate pair after its first half, if it follows. -/
def takeSecondHalf? : List Point → Option (Nat × List Point)
  | .char '\\' :: .char 'u' :: rest => do
    let (unit, tail) ← takeUnit? rest
    if 0xDC00 ≤ unit ∧ unit < 0xE000 then some (unit, tail) else none
  | _ => none

/-- The code point of an escape after its backslash; two escaped halves of a pair are one. -/
def takeEscape? : List Point → Option (Point × List Point)
  | .char 'u' :: rest => do
    let (unit, tail) ← takeUnit? rest
    let single := (Point.ofNat? unit).map (·, tail)
    if 0xD800 ≤ unit ∧ unit < 0xDC00 then
      match takeSecondHalf? tail with
      | some (second, tail) =>
        some (.char (Char.ofNat (0x10000 + (unit - 0xD800) * 0x400 + (second - 0xDC00))), tail)
      | none => single
    else single
  | .char 'n' :: rest => some (.char '\n', rest)
  | .char 'r' :: rest => some (.char '\r', rest)
  | .char 't' :: rest => some (.char '\t', rest)
  | .char 'b' :: rest => some (.char (Char.ofNat 8), rest)
  | .char 'f' :: rest => some (.char (Char.ofNat 12), rest)
  | .char c :: rest =>
    if c = doubleQuote ∨ c = '\\' ∨ c = '/' then some (.char c, rest) else none
  | _ => none

/-- The text up to the closing quote, and what follows it; `fuel` bounds the code points. -/
def takeString? : Nat → List Point → Option (List Point × List Point)
  | 0, _ => none
  | _ + 1, [] => none
  | fuel + 1, point :: rest =>
    if point = quoteMark then some ([], rest)
    else if point = .char '\\' then do
      let (image, tail) ← takeEscape? rest
      let (points, after) ← takeString? fuel tail
      return (image :: points, after)
    else if isControl point then none
    else do
      let (points, after) ← takeString? fuel rest
      return (point :: points, after)

def takeMinus : List Char → Bool × List Char
  | '-' :: rest => (true, rest)
  | cs => (false, cs)

/-- The whole digits of a number: one zero, or digits without a zero in front. -/
def takeWhole : List Char → List Nat × List Char
  | '0' :: rest => ([0], rest)
  | cs => takeDigits cs

/-- A point and at least one digit after it, if they are there. -/
def takeFilledFraction (cs : List Char) : Option (List Nat) × List Char :=
  match takeFraction cs with
  | (some [], _) => (none, cs)
  | other => other

/-- A number: no zeros in front, and a digit on each side of a point. -/
def takeNumber? (cs : List Char) : Option (Raw × List Char) :=
  let (negative, unsigned) := takeMinus cs
  let (whole, afterWhole) := takeWhole unsigned
  let (fraction, afterFraction) := takeFilledFraction afterWhole
  let (exponent, rest) := takeExponent afterFraction
  if whole = [] then none
  else if fraction.isNone ∧ exponent.isNone then
    if whole.length ≤ maxIntegerDigits then
      let size : Int := ofDigits 10 whole
      some (.int (if negative then -size else size), rest)
    else none
  else some (.float (ofParts negative whole (fraction.getD []) (exponent.getD 0)), rest)

/-- A character that numbers are written with. -/
def isNumberMark (c : Char) : Bool :=
  c.isDigit || c = '-' || c = '+' || c = '.' || c = 'e' || c = 'E'

def takeNumberMarks : List Point → List Char × List Point
  | .char c :: rest =>
    if isNumberMark c then let (marks, tail) := takeNumberMarks rest; (c :: marks, tail)
    else ([], .char c :: rest)
  | points => ([], points)

def takeWord? (points : List Point) : Option (Raw × List Point) :=
  let words : List (String × Raw) :=
    [("null", .null), ("true", .bool true), ("false", .bool false), ("NaN", .float .nan),
     ("Infinity", .float (.infinite false)), ("-Infinity", .float (.infinite true))]
  (words.find? fun word => (Point.ofChars word.1.toList).isPrefixOf points).map
    fun word => (word.2, points.drop word.1.length)

/-- A word or a number. -/
def takeAtom? (points : List Point) : Option (Raw × List Point) :=
  let (marks, rest) := takeNumberMarks points
  (takeWord? points).or
    ((takeNumber? marks).map fun (number, left) => (number, Point.ofChars left ++ rest))

mutual

/-- Reads one document at the front; `fuel` bounds the nesting and the count of parts. -/
def takeValue : Nat → Nat → List Point → Except Unreadable (Raw × List Point)
  | 0, _, _ => .error .malformed
  | _ + 1, _, [] => .error .malformed
  | fuel + 1, room, point :: rest =>
    if point = quoteMark then
      (ofPart (takeString? (rest.length + 1) rest)).map fun (points, tail) => (.text points, tail)
    else if point = .char '[' then
      match enter "array" room with
      | .error unreadable => .error unreadable
      | .ok room =>
        match skipBlanks rest with
        | .char ']' :: tail => .ok (.array [], tail)
        | body => (takeItems fuel room body).map fun (items, tail) => (.array items, tail)
    else if point = leftBrace then
      match enter "object" room with
      | .error unreadable => .error unreadable
      | .ok room =>
        match skipBlanks rest with
        | [] => .error .malformed
        | next :: tail =>
          if next = rightBrace then .ok (.object [], tail)
          else
            (takeEntries fuel room [] (next :: tail)).map fun (entries, tail) =>
              (.object entries, tail)
    else ofPart (takeAtom? (point :: rest))

/-- Reads the items of an array up to its closing bracket. -/
def takeItems : Nat → Nat → List Point → Except Unreadable (List Raw × List Point)
  | 0, _, _ => .error .malformed
  | fuel + 1, room, points =>
    match takeValue fuel room points with
    | .error unreadable => .error unreadable
    | .ok (item, rest) =>
      match skipBlanks rest with
      | .char ',' :: tail =>
        (takeItems fuel room (skipBlanks tail)).map fun (items, after) => (item :: items, after)
      | .char ']' :: tail => .ok ([item], tail)
      | _ => .error .malformed

/-- Reads the entries of an object up to its closing brace. -/
def takeEntries : Nat → Nat → List (List Point × Raw) → List Point →
    Except Unreadable (List (List Point × Raw) × List Point)
  | 0, _, _, _ => .error .malformed
  | _ + 1, _, _, [] => .error .malformed
  | fuel + 1, room, entries, quote :: rest =>
    if quote ≠ quoteMark then .error .malformed
    else
      match takeString? (rest.length + 1) rest with
      | none => .error .malformed
      | some (key, afterKey) =>
        match skipBlanks afterKey with
        | .char ':' :: afterColon =>
          match takeValue fuel room (skipBlanks afterColon) with
          | .error unreadable => .error unreadable
          | .ok (value, afterValue) =>
            let entries := Entries.insert key value entries
            match skipBlanks afterValue with
            | [] => .error .malformed
            | mark :: tail =>
              if mark = .char ',' then takeEntries fuel room entries (skipBlanks tail)
              else if mark = rightBrace then .ok (entries, tail)
              else .error .malformed
        | _ => .error .malformed

end

/-- Reads a text that is one document. -/
def readWithin (room : Nat) (points : List Point) : Except Unreadable Raw :=
  match takeValue (2 * points.length + 2) room (skipBlanks points) with
  | .error unreadable => .error unreadable
  | .ok (document, rest) => if skipBlanks rest = [] then .ok document else .error .malformed

/-- Reads a text of characters with room for all of its brackets. -/
def read? (cs : List Char) : Option Json :=
  match readWithin cs.length (Point.ofChars cs) with
  | .ok document => some document.settle
  | .error _ => none

end LoanDispatch.Json
