import LoanDispatch.Text.Quoted

/-!
The characters that the parts of an address admit.  Every other character is written as percent
escapes of its bytes, and an escape that is there already is kept.
-/

set_option autoImplicit false

namespace LoanDispatch.Url

def isUnreserved (c : Char) : Bool := c.isAlphanum || ['-', '.', '_', '~'].contains c

def visibleExcept (excluded : List Char) (c : Char) : Bool :=
  0x20 < c.toNat && c.toNat < 0x7F && !excluded.contains c

def queryExcluded : List Char := [Text.doubleQuote, '#', '<', '>']

def isFragmentChar (c : Char) : Bool :=
  visibleExcept [Text.doubleQuote, '<', '>', Char.ofNat 0x60] c

def isQueryChar (c : Char) : Bool := visibleExcept queryExcluded c

def pathExcluded : List Char :=
  queryExcluded ++ ['?', Char.ofNat 0x60, Char.ofNat 0x7B, Char.ofNat 0x7D]

def isPathChar (c : Char) : Bool := visibleExcept pathExcluded c

def isUserInfoChar (c : Char) : Bool :=
  visibleExcept (pathExcluded ++ ['/', ';', '=', '@', '[', '\\', ']', '^', '|']) c

def isHostChar (c : Char) : Bool :=
  ['!', '$', '&', Text.singleQuote, '(', ')', '*', '+', ',', ';', '=', Text.doubleQuote,
    Char.ofNat 0x60, Char.ofNat 0x7B, Char.ofNat 0x7D, '%', '|', '\\'].contains c

def escape (c : Char) : List Char :=
  c.toString.toUTF8.toList.flatMap fun byte => '%' :: (Text.hexDigits 2 byte.toNat).map Char.toUpper

def isHexDigit (c : Char) : Bool :=
  c.isDigit || ('a' ≤ c && c ≤ 'f') || ('A' ≤ c && c ≤ 'F')

/-- Escapes the characters that a part does not admit; escapes that are there already are kept. -/
def quoteChars (admits : Char → Bool) : List Char → List Char
  | [] => []
  | c :: rest =>
    let plain := isUnreserved c || admits c
    if c = '%' ∧ ((rest.take 2).filter isHexDigit).length = 2 then c :: quoteChars admits rest
    else (if plain then [c] else escape c) ++ quoteChars admits rest

def quote (admits : Char → Bool) (s : String) : String :=
  String.ofList (quoteChars admits s.toList)

end LoanDispatch.Url
