import LoanDispatch.Json.Basic
import LoanDispatch.Number.Shortest
import LoanDispatch.Text.Quoted

/-!
Writing JSON documents.  A style gives the separators and says whether characters outside ASCII are
escaped, as one or two groups of four hexadecimal digits.
-/

set_option autoImplicit false

namespace LoanDispatch.Json

open Text

structure Style where
  itemSeparator : List Char
  keySeparator : List Char
  asciiOnly : Bool

def compactAscii : Style := ⟨[','], [':'], true⟩

def compact : Style := ⟨[','], [':'], false⟩

def spaced : Style := ⟨[',', ' '], [':', ' '], true⟩

def unitEscape (unit : Nat) : List Char := '\\' :: 'u' :: hexDigits 4 unit

def unicodeEscape (c : Char) : List Char :=
  let n := c.toNat
  if n < 0x10000 then unitEscape n
  else unitEscape (0xD800 + (n - 0x10000) / 0x400) ++ unitEscape (0xDC00 + (n - 0x10000) % 0x400)

def escapeChar (asciiOnly : Bool) (c : Char) : List Char :=
  if c = doubleQuote ∨ c = '\\' then ['\\', c]
  else if c = '\n' then ['\\', 'n']
  else if c = '\r' then ['\\', 'r']
  else if c = '\t' then ['\\', 't']
  else if c.toNat = 8 then ['\\', 'b']
  else if c.toNat = 12 then ['\\', 'f']
  else if c.toNat < 32 ∨ (asciiOnly ∧ 126 < c.toNat) then unicodeEscape c
  else [c]

def quoteChars (asciiOnly : Bool) (cs : List Char) : List Char :=
  doubleQuote :: cs.flatMap (escapeChar asciiOnly) ++ [doubleQuote]

/-- Numbers that are not finite have words of their own. -/
def numberLayout : Number.FloatLayout :=
  { Number.plainLayout with nanText := "NaN", infinityText := "Infinity" }

mutual

def render (style : Style) : Json → List Char
  | .null => ['n', 'u', 'l', 'l']
  | .bool true => ['t', 'r', 'u', 'e']
  | .bool false => ['f', 'a', 'l', 's', 'e']
  | .int number => (toString number).toList
  | .float number => (number.shortestWith numberLayout).toList
  | .text words => quoteChars style.asciiOnly words.toList
  | .array items => '[' :: renderItems style items ++ [']']
  | .object entries => Char.ofNat 123 :: renderEntries style entries ++ [Char.ofNat 125]

def renderItems (style : Style) : List Json → List Char
  | [] => []
  | [item] => render style item
  | item :: rest => render style item ++ style.itemSeparator ++ renderItems style rest

def renderEntries (style : Style) : List (String × Json) → List Char
  | [] => []
  | [(key, value)] =>
    quoteChars style.asciiOnly key.toList ++ style.keySeparator ++ render style value
  | (key, value) :: rest =>
    quoteChars style.asciiOnly key.toList ++ style.keySeparator ++ render style value
      ++ style.itemSeparator ++ renderEntries style rest

end

def write (style : Style) (document : Json) : String := String.ofList (document.render style)

end LoanDispatch.Json
