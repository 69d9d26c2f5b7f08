import LoanDispatch.Number.Precision
import LoanDispatch.Value.Integer
import LoanDispatch.Value.Printed

/-!
Conversions of message arguments.  A conversion makes a text of one argument and lays it out: cut
off or filled up to a precision, signed, and padded to a width.  Decimal digits are only made of an
integer that prints; a foreign object is a text and no number.
-/

set_option autoImplicit false

namespace LoanDispatch.Log

inductive ConversionKind where
  | text
  /-- The value as a literal; `ascii` escapes all other characters. -/
  | literal (ascii : Bool)
  | character
  | integer
  | based (base : Nat) (raised : Bool)
  | float (style : Number.FloatStyle) (raised : Bool)

structure Shape where
  /-- A base is written before the digits, and a point after them. -/
  alternate : Bool
  zeros : Bool
  /-- The text stands at the left, and is padded with spaces after it. -/
  left : Bool
  plus : List Char
  width : Nat
  precision : Option Nat

namespace Shape

/-- Pads a text, of which the lead, a sign or a base, stays before any zeros. -/
def pad (shape : Shape) (lead words : List Char) (zeros : Bool) : List Char :=
  let missing := shape.width - (lead.length + words.length)
  if shape.left then lead ++ words ++ List.replicate missing ' '
  else if zeros && shape.zeros then lead ++ List.replicate missing '0' ++ words
  else List.replicate missing ' ' ++ lead ++ words

def layText (shape : Shape) (words : String) : List Char :=
  let cs := words.toList
  shape.pad [] ((shape.precision.map cs.take).getD cs) false

/-- The digits of an integer, filled with zeros up to the precision, after its sign and base. -/
def layInteger (shape : Shape) (base : List Char) (digits : List Char) (negative : Bool) :
    List Char :=
  let digits := List.replicate (shape.precision.getD 0 - digits.length) '0' ++ digits
  shape.pad ((if negative then ['-'] else shape.plus) ++ base) digits true

/-- The text of a floating point number, whose sign may be a minus. -/
def layFloat (shape : Shape) (words : List Char) : List Char :=
  match words with
  | '-' :: digits => shape.pad ['-'] digits true
  | digits => shape.pad shape.plus digits true

/-- The places of a floating point number without a precision. -/
def defaultPrecision : Nat := 6

end Shape

namespace ConversionKind

def raise (raised : Bool) (words : List Char) : List Char :=
  if raised then words.map Char.toUpper else words

def baseMark (base : Nat) : List Char := ['0', if base = 8 then 'o' else 'x']

/-- An integer; a truth value counts as one. -/
def integerOf (value : Value) : Except Misfit Int :=
  match value with
  | .int number => .ok number
  | .bool flag => .ok (if flag then 1 else 0)
  | _ => .error .badTemplate

def wholeOf (value : Value) : Except Misfit Int :=
  match value with
  | .float _ => value.toInteger
  | _ => integerOf value

def numberOf (value : Value) : Except Misfit Number.Binary64 :=
  match value with
  | .float number => .ok number
  | _ => do
    let number ← integerOf value
    match Number.Binary64.ofInt? number with
    | some number => .ok number
    | none => .error .tooLarge

/-- A text of one character, or the character with a number. -/
def characterOf (value : Value) : Except Misfit (List Char) :=
  match value with
  | .text words => if words.length = 1 then .ok words.toList else .error .badTemplate
  | _ => do
    let number ← integerOf value
    if 0 ≤ number ∧ number < 0x110000 then return [Char.ofNat number.toNat] else .error .tooLarge

def escapeOthers (words : String) : String :=
  String.ofList (words.toList.flatMap fun c =>
    if c.toNat < 128 then [c] else Text.escapeCode c.toNat)

def convert (kind : ConversionKind) (shape : Shape) (value : Value) : Except Misfit (List Char) :=
  match kind with
  | .text => value.printed.map shape.layText
  | .literal ascii =>
    value.printedLiteral.map fun words =>
      shape.layText (if ascii then escapeOthers words else words)
  | .character => (characterOf value).map fun cs => shape.pad [] cs false
  | .integer => do
    let number ← wholeOf value
    if Value.isLong number then .error (.unprintable Number.maxIntegerDigits)
    else return shape.layInteger [] (toString number.natAbs).toList (decide (number < 0))
  | .based base raised =>
    (integerOf value).map fun number =>
      shape.layInteger (raise raised (if shape.alternate then baseMark base else []))
        (raise raised (Nat.toDigits base number.natAbs)) (decide (number < 0))
  | .float style raised =>
    (numberOf value).map fun number =>
      shape.layFloat (Number.FloatFormat.write
        ⟨style, shape.precision.getD Shape.defaultPrecision, shape.alternate, raised⟩ number)

end ConversionKind

end LoanDispatch.Log
