import LoanDispatch.Log.Conversion

/-!
Message templates.  A template is a row of plain characters and places, which take the arguments of
a message one after another, or by name out of a mapping.
-/

set_option autoImplicit false

namespace LoanDispatch.Log

/-- A width or precision: a count, or the next argument. -/
inductive Size where
  | count (size : Nat)
  | argument

inductive PlaceEnd where
  | convert (kind : ConversionKind)
  | unknown
  | missing

inductive PlaceKey where
  | positional
  | named (key : String)
  | unclosed

structure Place where
  key : PlaceKey
  flags : List Char
  width : Size
  precision : Option Size
  last : PlaceEnd

inductive Piece where
  | plain (c : Char)
  | place (place : Place)

/-- The arguments of a message.  A single mapping is an argument by itself and also gives arguments
by name. -/
structure Arguments where
  values : List Value
  entries : Option (List (String × Value))

namespace Arguments

def ofList (values : List Value) : Arguments :=
  match values with
  | [.map (entry :: rest)] => ⟨values, some (entry :: rest)⟩
  | _ => ⟨values, none⟩

end Arguments

namespace Template

def kindOf? (c : Char) : Option ConversionKind :=
  if c = 's' then some .text
  else if c = 'r' then some (.literal false)
  else if c = 'a' then some (.literal true)
  else if c = 'c' then some .character
  else if c = 'd' ∨ c = 'i' ∨ c = 'u' then some .integer
  else if c = 'o' then some (.based 8 false)
  else if c = 'x' ∨ c = 'X' then some (.based 16 (c = 'X'))
  else if c = 'f' ∨ c = 'F' then some (.float .fixed (c = 'F'))
  else if c = 'e' ∨ c = 'E' then some (.float .exponent (c = 'E'))
  else if c = 'g' ∨ c = 'G' then some (.float .general (c = 'G'))
  else none

/-- The characters up to the parenthesis that closes `depth` open ones, and the rest after it. -/
def cutClosed : Nat → List Char → Option (List Char × List Char)
  | _, [] => none
  | depth, c :: rest =>
    if c = ')' ∧ depth ≤ 1 then some ([], rest)
    else
      let depth := if c = '(' then depth + 1 else if c = ')' then depth - 1 else depth
      (cutClosed depth rest).map fun (key, rest) => (c :: key, rest)

/-- The name between parentheses that a place may begin with, and the rest. -/
def cutKey (cs : List Char) : PlaceKey × List Char :=
  match cs with
  | '(' :: rest =>
    match cutClosed 1 rest with
    | some (key, rest) => (.named (String.ofList key), rest)
    | none => (.unclosed, [])
  | _ => (.positional, cs)

def isFlag (c : Char) : Bool := ['#', '0', '-', ' ', '+'].contains c

def cutSize (cs : List Char) : Size × List Char :=
  match cs with
  | '*' :: rest => (.argument, rest)
  | _ => let (digits, rest) := Number.takeDigits cs; (.count (Number.ofDigits 10 digits), rest)

def cutPrecision (cs : List Char) : Option Size × List Char :=
  match cs with
  | '.' :: rest => let (precision, rest) := cutSize rest; (some precision, rest)
  | _ => (none, cs)

/-- One letter for the size of a number may stand before the conversion and says nothing. -/
def dropLength (cs : List Char) : List Char :=
  match cs with
  | c :: rest => if c = 'h' ∨ c = 'l' ∨ c = 'L' then rest else cs
  | [] => []

def cutEnd (cs : List Char) : PlaceEnd × List Char :=
  match cs with
  | [] => (.missing, [])
  | c :: rest => (((kindOf? c).map PlaceEnd.convert).getD .unknown, rest)

/-- The piece after a percent sign, and the rest.  A second percent sign stands for one. -/
def cutPiece (cs : List Char) : Piece × List Char :=
  match cs with
  | '%' :: rest => (.plain '%', rest)
  | _ =>
    let (key, afterKey) := cutKey cs
    let flags := afterKey.takeWhile isFlag
    let (width, afterWidth) := cutSize (afterKey.drop flags.length)
    let (precision, afterPrecision) := cutPrecision afterWidth
    let (last, rest) := cutEnd (dropLength afterPrecision)
    (.place ⟨key, flags, width, precision, last⟩, rest)

/-- The pieces of a template; `fuel` bounds their number. -/
def readPieces : Nat → List Char → List Piece
  | 0, _ => []
  | _, [] => []
  | fuel + 1, c :: rest =>
    if c = '%' then
      let (piece, rest) := cutPiece rest
      piece :: readPieces fuel rest
    else .plain c :: readPieces fuel rest

def read (template : String) : List Piece :=
  let cs := template.toList
  readPieces cs.length cs

def nextValue : List Value → Except Misfit (Value × List Value)
  | [] => .error .badTemplate
  | value :: rest => .ok (value, rest)

def widthLimit : Nat := Number.twoTo 63

def precisionLimit : Nat := Number.twoTo 31

/-- A size below a limit, and the arguments after it. -/
def nextSize (limit : Nat) (size : Size) (values : List Value) : Except Misfit (Int × List Value) :=
  match size with
  | .count size => if size < limit then .ok (size, values) else .error .badConversion
  | .argument => do
    let (value, rest) ← nextValue values
    let size ← ConversionKind.integerOf value
    if size.natAbs < limit then return (size, rest) else .error .tooLarge

/-- The arguments that a place sees: after its name, only the argument of that name. -/
def enterKey (key : PlaceKey) (entries : Option (List (String × Value))) (values : List Value) :
    Except Misfit (List Value) :=
  match key, entries with
  | .positional, _ => .ok values
  | _, none => .error .badTemplate
  | .unclosed, _ => .error .badConversion
  | .named key, some entries =>
    match Entries.lookup key entries with
    | some value => .ok [value]
    | none => .error (.missingKey (Text.literal key))

/-- The shape that a place asks for.  A negative width puts the text at the left, and a negative
precision counts as zero. -/
def shapeOf (flags : List Char) (width : Int) (precision : Option Int) : Shape where
  alternate := flags.contains '#'
  zeros := flags.contains '0'
  left := flags.contains '-' || decide (width < 0)
  plus := if flags.contains '+' then ['+'] else if flags.contains ' ' then [' '] else []
  width := width.natAbs
  precision := precision.map Int.toNat

/-- Fills a place: its text, and the arguments after it. -/
def fillPlace (place : Place) (entries : Option (List (String × Value))) (values : List Value) :
    Except Misfit (List Char × List Value) := do
  let values ← enterKey place.key entries values
  let (width, values) ← nextSize widthLimit place.width values
  let (precision, values) ←
    match place.precision with
    | none => pure (none, values)
    | some size =>
      (nextSize precisionLimit size values).map fun (size, values) => (some size, values)
  match place.last with
  | .missing => .error .badConversion
  | .unknown => (nextValue values).bind fun _ => .error .badConversion
  | .convert kind => do
    let (value, values) ← nextValue values
    return (← kind.convert (shapeOf place.flags width precision) value, values)

/-- Fills the pieces in; arguments that are left over do not match, unless they came as a mapping.
-/
def fillPieces (entries : Option (List (String × Value))) :
    List Value → List Piece → Except Misfit (List Char)
  | values, [] => if values.isEmpty || entries.isSome then .ok [] else .error .badTemplate
  | values, .plain c :: rest => (fillPieces entries values rest).map (c :: ·)
  | values, .place place :: rest => do
    let (words, values) ← fillPlace place entries values
    return words ++ (← fillPieces entries values rest)

/-- The message of a template; without arguments the template is the message. -/
def fill (template : String) (arguments : Arguments) : Except Misfit String :=
  if arguments.values.isEmpty then .ok template
  else (fillPieces arguments.entries arguments.values (read template)).map String.ofList

end Template

end LoanDispatch.Log
