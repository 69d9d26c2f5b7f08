import LoanDispatch.Number.Reading
import LoanDispatch.Text.Split
import LoanDispatch.Value.Basic

/-!
Conversion of given values to the types of settings.  Texts that write a number or a truth value are
taken for it; every other mismatch has a named reason.
-/

set_option autoImplicit false

namespace LoanDispatch.Settings

inductive Unfit where
  | textType
  | integerType
  | integerText
  | integerSize
  | integerFraction
  | notFinite
  | flagType
  | flagText
  | numberType
  | numberText
  | listType
  deriving DecidableEq

def Unfit.name : Unfit → String
  | .textType => "string_type"
  | .integerType => "int_type"
  | .integerText => "int_parsing"
  | .integerSize => "int_parsing_size"
  | .integerFraction => "int_from_float"
  | .notFinite => "finite_number"
  | .flagType => "bool_type"
  | .flagText => "bool_parsing"
  | .numberType => "float_type"
  | .numberText => "float_parsing"
  | .listType => "list_type"

def toText (value : Value) : Except Unfit String :=
  match value.text? with
  | some words => .ok words
  | none => .error .textType

def toOptionalText (value : Value) : Except Unfit (Option String) :=
  if value.isNull then .ok none else (toText value).map some

def dropUnderscores (cs : List Char) : List Char :=
  if cs.head? = some '_' ∨ cs.getLast? = some '_' ∨ Text.occursIn ['_', '_'] cs then cs
  else cs.filter (· ≠ '_')

def dropZeroFraction (cs : List Char) : List Char :=
  let whole := cs.takeWhile (· ≠ '.')
  if (cs.drop (whole.length + 1)).all (· = '0') then whole else cs

/-- Removes zeros and underscores in front of another digit or of a point; none when the text does
not begin as a number does. -/
def dropLeadingZeros? (cs : List Char) : Option (List Char) :=
  match cs with
  | '0' :: rest =>
    let after := rest.dropWhile fun c => c = '0' || c = '_'
    match after with
    | [] => some (cs.drop (cs.length - 1))
    | '.' :: _ => some (cs.drop (cs.length - after.length - 1))
    | c :: _ => if c.isDigit then some after else none
  | c :: _ => if c.isDigit || c = '-' then some cs else none
  | [] => none

def plainInteger? (cs : List Char) : Option Int :=
  let digits := if cs.head? = some '-' then cs.drop 1 else cs
  let values := digits.filterMap Text.asciiDigit?
  if digits = [] ∨ values.length ≠ digits.length then none
  else if digits.head? = some '0' ∧ digits ≠ ['0'] then none
  else
    let size : Int := Number.ofDigits 10 values
    some (if cs.head? = some '-' then -size else size)

/-- A text that writes an integer, with white space around it, a plus sign, zeros in front,
underscores between digits, or a fraction of zeros. -/
def readInteger? (cs : List Char) : Option Int :=
  let trimmed := Text.trimWhite cs
  let unsigned := match trimmed with
    | '+' :: '-' :: _ => []
    | '+' :: rest => rest
    | _ => trimmed
  match plainInteger? cs with
  | some number => some number
  | none => do plainInteger? (dropUnderscores (dropZeroFraction (← dropLeadingZeros? unsigned)))

def integerOfText (words : String) : Except Unfit Int :=
  if Number.maxIntegerDigits < words.length then .error .integerSize
  else
    match readInteger? words.toList with
    | some number => .ok number
    | none => .error .integerText

def toInteger (value : Value) : Except Unfit Int :=
  match value with
  | .int number => .ok number
  | .bool flag => .ok (if flag then 1 else 0)
  | .float number =>
    match number.truncate? with
    | none => .error .notFinite
    | some integer => if number.equalsInt integer then .ok integer else .error .integerFraction
  | _ =>
    match value.text? with
    | some words => integerOfText words
    | none => .error .integerType

def falseWords : List String := ["0", "f", "n", "no", "off", "false"]

def trueWords : List String := ["1", "t", "y", "on", "yes", "true"]

/-- The truth value that a word writes, in small or capital letters. -/
def flagOfText (words : String) : Except Unfit Bool :=
  let word := String.ofList (words.toList.map Char.toLower)
  if falseWords.contains word then .ok false
  else if trueWords.contains word then .ok true
  else .error .flagText

def flagOfInteger (number : Int) : Except Unfit Bool :=
  if number = 0 then .ok false else if number = 1 then .ok true else .error .flagText

def toFlag (value : Value) : Except Unfit Bool :=
  match value with
  | .bool flag => .ok flag
  | .int number => flagOfInteger number
  | .float number =>
    match number.truncate? with
    | some integer => if number.equalsInt integer then flagOfInteger integer else .error .flagType
    | none => .error .flagType
  | _ =>
    match value.text? with
    | some words => flagOfText words
    | none => .error .flagType

def numberOfText (words : String) : Except Unfit Number.Binary64 :=
  let cs := words.toList
  match Number.readBinary64? (String.ofList (Text.trimWhite cs)) with
  | some number => .ok number
  | none =>
    match Number.readBinary64? (String.ofList (dropUnderscores cs)) with
    | some number => .ok number
    | none => .error .numberText

def toNumber (value : Value) : Except Unfit Number.Binary64 :=
  let ofInteger (number : Int) : Except Unfit Number.Binary64 :=
    match Number.Binary64.ofInt? number with
    | some number => .ok number
    | none => .error .numberType
  match value with
  | .float number => .ok number
  | .int number => ofInteger number
  | .bool flag => ofInteger (if flag then 1 else 0)
  | _ =>
    match value.text? with
    | some words => numberOfText words
    | none => .error .numberType

/-- The texts of a list, or the reasons of its items that are none. -/
def toTexts (value : Value) : Except (List Unfit) (List String) :=
  match value.items? with
  | none => .error [.listType]
  | some items =>
    let unfit := items.filterMap fun item =>
      match toText item with
      | .ok _ => none
      | .error reason => some reason
    if unfit.isEmpty then .ok (items.filterMap Value.text?) else .error unfit

end LoanDispatch.Settings
