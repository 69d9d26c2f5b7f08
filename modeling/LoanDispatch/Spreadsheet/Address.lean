import LoanDispatch.Fault.Misfit
import LoanDispatch.Number.Reading
import LoanDispatch.Value.Basic

/-!
Addresses of cells.  Columns are lettered in bijective base 26, the title of a tab stands between
quotes with its own quotes doubled, and the row of a reported range is the number after its first
column letters.
-/

set_option autoImplicit false

namespace LoanDispatch.Spreadsheet

def letterOf (digit : Nat) : Char := Char.ofNat ('A'.toNat + digit)

/-- The letters of a column counted from one, put before `tail`. -/
def lettersFrom (number : Nat) (tail : List Char) : List Char :=
  if h : number = 0 then tail
  else lettersFrom ((number - 1) / 26) (letterOf ((number - 1) % 26) :: tail)
termination_by number
decreasing_by omega

def letters (index : Nat) : String := String.ofList (lettersFrom (index + 1) [])

/-- The letters of a column; a negative index has none. -/
def columnLetters (index : Int) : Except Misfit String :=
  if index < 0 then .error (.negativeColumn index) else .ok (letters index.toNat)

/-- A title between quotes, with every quote inside it doubled. -/
def quoteTitle (title : String) : String :=
  let quote := Text.singleQuote
  String.ofList (quote :: title.toList.flatMap (fun c => if c = quote then [quote, quote] else [c])
    ++ [quote])

def address (title cells : String) : String := quoteTitle title ++ "!" ++ cells

def isColumnLetter (c : Char) : Bool := ('A' ≤ c && c ≤ 'Z') || ('a' ≤ c && c ≤ 'z')

def dropMark : List Char → List Char
  | '$' :: rest => rest
  | cs => cs

/-- The digits of the row after the column letters that the text begins with. -/
def rowAfterLetters? (cs : List Char) : Option (List Char) :=
  let start := dropMark cs
  let afterLetters := start.dropWhile isColumnLetter
  let digits := (dropMark afterLetters).takeWhile Text.isDecimal
  if afterLetters.length = start.length ∨ digits = [] then none else some digits

/-- The digits of the row of the first reference that follows an exclamation mark. -/
def rowDigits? : List Char → Option (List Char)
  | [] => none
  | c :: rest =>
    match (if c = '!' then rowAfterLetters? rest else none) with
    | some digits => some digits
    | none => rowDigits? rest

/-- The row of a reported range; nothing reported has no row. -/
def reportedRow? (range : Value) : Except Misfit (Option Int) :=
  if !range.isGiven then .ok none
  else
    match range.text? with
    | none => .error (.notText range.kindName)
    | some words =>
      match rowDigits? words.toList with
      | none => .ok none
      | some digits => (Number.readInteger (String.ofList digits)).map some

end LoanDispatch.Spreadsheet
