import LoanDispatch.Fault.Misfit
import LoanDispatch.Number.Binary
import LoanDispatch.Text.Blank
import LoanDispatch.Text.Digit

/-!
Reading numbers from text.  An integer may stand between white space, may carry one sign, may use
the decimal digits of any script and may have single underscores between digits.  A decimal text is
ASCII: digits with an optional point and an optional exponent.
-/

set_option autoImplicit false

namespace LoanDispatch.Number

def ofDigits (base : Nat) (digits : List Nat) : Nat :=
  digits.foldl (fun n digit => n * base + digit) 0

/-- Cuts off a sign; the flag says that it was a minus. -/
def takeSign : List Char → Bool × List Char
  | '-' :: rest => (true, rest)
  | '+' :: rest => (false, rest)
  | cs => (false, cs)

/-- The digit values of a text of digits with at most one underscore between two digits.  The flag
says that an underscore may stand here, so the text neither begins nor ends with one. -/
def underscoredDigits (digit? : Char → Option Nat) : Bool → List Char → Option (List Nat)
  | afterDigit, [] => if afterDigit then some [] else none
  | afterDigit, '_' :: rest => if afterDigit then underscoredDigits digit? false rest else none
  | _, c :: rest =>
    match digit? c with
    | some digit => (underscoredDigits digit? true rest).map (digit :: ·)
    | none => none

/-- The count of digits up to which an integer is read and printed. -/
def maxIntegerDigits : Nat := 4300

/-- Reads an integer; none for any other text and for one with too many digits. -/
def readInteger? (s : String) : Option Int :=
  let (negative, digits) := takeSign (Text.trimWhite s.toList)
  match underscoredDigits Text.decimalValue? false digits with
  | some values =>
    if values.length ≤ maxIntegerDigits then
      let size : Int := ofDigits 10 values
      some (if negative then -size else size)
    else none
  | none => none

/-- Why a text is read as no integer: it has too many digits before anything else is wrong, or it
writes none. -/
def integerMisfit (s : String) : Misfit :=
  let (_, cs) := takeSign (Text.trimWhite s.toList)
  let run := cs.takeWhile fun c => Text.isDecimal c || c == '_'
  match underscoredDigits Text.decimalValue? false run with
  | some values =>
    if maxIntegerDigits < values.length then .tooManyDigits maxIntegerDigits values.length
    else .badInteger s
  | none => .badInteger s

/-- Reads an integer, or says why the text is read as none. -/
def readInteger (s : String) : Except Misfit Int :=
  match readInteger? s with
  | some number => .ok number
  | none => .error (integerMisfit s)

def takeDigits : List Char → List Nat × List Char
  | [] => ([], [])
  | c :: rest =>
    match Text.asciiDigit? c with
    | some digit => let (digits, tail) := takeDigits rest; (digit :: digits, tail)
    | none => ([], c :: rest)

/-- A point and the digits after it, if there is a point. -/
def takeFraction : List Char → Option (List Nat) × List Char
  | '.' :: rest => let (digits, tail) := takeDigits rest; (some digits, tail)
  | cs => (none, cs)

/-- An exponent mark with an optional sign and at least one digit, if there is one. -/
def takeExponent (cs : List Char) : Option Int × List Char :=
  match cs with
  | c :: rest =>
    if c = 'e' ∨ c = 'E' then
      let (negative, digits) := takeSign rest
      match takeDigits digits with
      | ([], _) => (none, cs)
      | (values, tail) =>
        let size : Int := ofDigits 10 values
        (some (if negative then -size else size), tail)
    else (none, cs)
  | [] => (none, [])

/-- The number with these whole digits, fraction digits and exponent. -/
def ofParts (negative : Bool) (whole fraction : List Nat) (exponent : Int) : Binary64 :=
  .ofDecimal negative (ofDigits 10 (whole ++ fraction)) (exponent - fraction.length)

/-- Reads a signed decimal text; digits may be missing on one side of the point. -/
def readDecimal? (cs : List Char) : Option Binary64 :=
  let (negative, unsigned) := takeSign cs
  let (whole, afterWhole) := takeDigits unsigned
  let (fraction, afterFraction) := takeFraction afterWhole
  let (exponent, rest) := takeExponent afterFraction
  if rest ≠ [] ∨ (whole = [] ∧ fraction.getD [] = []) then none
  else some (ofParts negative whole (fraction.getD []) (exponent.getD 0))

/-- Reads a decimal text, or one of the words for numbers that are not finite. -/
def readBinary64? (s : String) : Option Binary64 :=
  match readDecimal? s.toList with
  | some x => some x
  | none =>
    let (negative, word) := takeSign s.toList
    let lowered := String.ofList (word.map Char.toLower)
    if lowered = "nan" then some .nan
    else if lowered = "inf" ∨ lowered = "infinity" then some (.infinite negative)
    else none

end LoanDispatch.Number
