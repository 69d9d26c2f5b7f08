import LoanDispatch.Text.Quoted

/-!
Values that do not fit where they are used.  A misfit is a cause; `className` names its class and
`text` words it.
-/

set_option autoImplicit false

namespace LoanDispatch

inductive Misfit where
  | noAttribute (kind name : String)
  | notIterable (kind : String)
  | notContainer (kind : String)
  | emptySequence
  | notSubscriptable (kind : String)
  /-- A list or text is looked up by a key that is no position. -/
  | badPosition (kind : String) (key : String)
  | unhashable (kind : String)
  /-- A mapping has no such key; `shown` is the key's literal. -/
  | missingKey (shown : String)
  | badInteger (text : String)
  /-- A text writes an integer with more digits than are read. -/
  | tooManyDigits (limit count : Nat)
  /-- An integer has more digits than are printed. -/
  | unprintable (limit : Nat)
  /-- An array or object of a JSON text nests deeper than there is room for. -/
  | tooDeep (kind : String)
  | notIntegral (kind : String)
  | noIntegerPart (infinite : Bool)
  | badMoment (text : String)
  /-- An element that should be a pair has another length. -/
  | pairLength (index length : Nat)
  /-- An element that should be a pair is no sequence. -/
  | notPair (index : Nat)
  | notText (kind : String)
  | badHeader (kind : String)
  | badAddress (kind shown : String)
  | notJoinable (kind : String)
  | notOrdered (operator left right : String)
  | tooLarge
  | negativeColumn (index : Int)
  | notSerializable (kind : String)
  | notFinite
  /-- The first run of characters outside ASCII, with its first character, start and end. -/
  | notAscii (first : Char) (start stop : Nat)
  | wrongArguments
  | badTemplate
  /-- A message template has a conversion that is not known. -/
  | badConversion
  | badLevel
  | notLevel
  | badCredential
  deriving DecidableEq

namespace Misfit

def className : Misfit → String
  | .noAttribute .. => "AttributeError"
  | .missingKey _ => "KeyError"
  | .emptySequence => "IndexError"
  | .badInteger _ | .tooManyDigits .. | .unprintable _ | .badMoment _ | .pairLength ..
  | .negativeColumn _ | .notFinite | .badLevel | .badConversion | .badCredential => "ValueError"
  | .noIntegerPart infinite => if infinite then "OverflowError" else "ValueError"
  | .tooLarge => "OverflowError"
  | .notAscii .. => "UnicodeEncodeError"
  | .tooDeep _ => "RecursionError"
  | _ => "TypeError"

/-- The wording of a run of characters outside ASCII: one character is shown, several are counted.
-/
def asciiText (first : Char) (start stop : Nat) : String :=
  let place :=
    if stop ≤ start + 1 then
      " '" ++ String.ofList (Text.escapeCode first.toNat) ++ "' in position " ++ toString start
    else "s in position " ++ toString start ++ "-" ++ toString (stop - 1)
  "'ascii' codec can't encode character" ++ place ++ ": ordinal not in range(128)"

/-- How much of a literal the wording of an unreadable integer shows. -/
def literalLimit : Nat := 200

def text : Misfit → String
  | .noAttribute kind name => "'" ++ kind ++ "' object has no attribute '" ++ name ++ "'"
  | .notIterable kind => "'" ++ kind ++ "' object is not iterable"
  | .notContainer kind => "argument of type '" ++ kind ++ "' is not iterable"
  | .emptySequence => "list index out of range"
  | .notSubscriptable kind => "'" ++ kind ++ "' object is not subscriptable"
  | .badPosition kind key =>
    if kind = "str" then "string indices must be integers, not '" ++ key ++ "'"
    else kind ++ " indices must be integers or slices, not " ++ key
  | .unhashable kind => "unhashable type: '" ++ kind ++ "'"
  | .missingKey shown => shown
  | .badInteger words =>
    "invalid literal for int() with base 10: "
      ++ String.ofList ((Text.literal words).toList.take literalLimit)
  | .tooManyDigits limit count =>
    "Exceeds the limit (" ++ toString limit ++ " digits) for integer string conversion: value has "
      ++ toString count ++ " digits; use sys.set_int_max_str_digits() to increase the limit"
  | .unprintable limit =>
    "Exceeds the limit (" ++ toString limit ++ " digits) for integer string conversion; "
      ++ "use sys.set_int_max_str_digits() to increase the limit"
  | .tooDeep kind =>
    "maximum recursion depth exceeded while decoding a JSON " ++ kind ++ " from a unicode string"
  | .notIntegral kind =>
    "int() argument must be a string, a bytes-like object or a real number, not '" ++ kind ++ "'"
  | .noIntegerPart infinite =>
    if infinite then "cannot convert float infinity to integer"
    else "cannot convert float NaN to integer"
  | .badMoment words => "Invalid isoformat string: " ++ Text.literal words
  | .pairLength index length =>
    "dictionary update sequence element #" ++ toString index ++ " has length " ++ toString length
      ++ "; 2 is required"
  | .notPair index =>
    "cannot convert dictionary update sequence element #" ++ toString index ++ " to a sequence"
  | .notText kind => "expected string or bytes-like object, got '" ++ kind ++ "'"
  | .badHeader kind => "Header value must be str or bytes, not <class '" ++ kind ++ "'>"
  | .badAddress kind shown =>
    "Invalid type for url.  Expected str or httpx.URL, got <class '" ++ kind ++ "'>: " ++ shown
  | .notJoinable kind => "can only concatenate str (not \"" ++ kind ++ "\") to str"
  | .notOrdered operator left right =>
    "'" ++ operator ++ "' not supported between instances of '" ++ left ++ "' and '" ++ right ++ "'"
  | .tooLarge => "int too large to convert to float"
  | .negativeColumn index => "column index must be >= 0, got " ++ toString index
  | .notSerializable kind => "Object of type " ++ kind ++ " is not JSON serializable"
  | .notFinite => "Out of range float values are not JSON compliant"
  | .notAscii first start stop => asciiText first start stop
  | .wrongArguments => "the arguments do not match"
  | .badConversion => "unsupported format character"
  | .badTemplate => "not all arguments converted during string formatting"
  | .badLevel => "Unknown level"
  | .notLevel => "Level not an integer or a valid string"
  | .badCredential => "No key could be detected."

end Misfit

end LoanDispatch
