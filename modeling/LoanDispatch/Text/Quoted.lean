import LoanDispatch.Text.Digit
import LoanDispatch.Text.PrintableTable
import LoanDispatch.Text.Range
import LoanDispatch.Text.Split

/-!
Texts shown as literals.  A literal stands between single quotes, or between double quotes when the
text holds a single quote and no double quote; the quote, the backslash and every character without
a printed form are escaped.
-/

set_option autoImplicit false

namespace LoanDispatch.Text

def isPrintable (c : Char) : Bool := !memRanges unprintableRanges c

/-- The lower case hexadecimal digits of a number, filled with zeros up to a width. -/
def hexDigits : Nat → Nat → List Char
  | 0, _ => []
  | width + 1, n => hexDigits width (n / 16) ++ [digitChar (n % 16)]

/-- The shortest of the three escapes that holds the code point. -/
def escapeCode (n : Nat) : List Char :=
  if n < 0x100 then '\\' :: 'x' :: hexDigits 2 n
  else if n < 0x10000 then '\\' :: 'u' :: hexDigits 4 n
  else '\\' :: 'U' :: hexDigits 8 n

def singleQuote : Char := Char.ofNat 39

def doubleQuote : Char := Char.ofNat 34

def literalChar (quote c : Char) : List Char :=
  if c = quote ∨ c = '\\' then ['\\', c]
  else if c = '\n' then ['\\', 'n']
  else if c = '\r' then ['\\', 'r']
  else if c = '\t' then ['\\', 't']
  else if isPrintable c then [c]
  else escapeCode c.toNat

/-- Double quotes are chosen only for a text that holds a single quote and no double quote. -/
def literalQuote (cs : List Char) : Char :=
  if singleQuote ∈ cs ∧ doubleQuote ∉ cs then doubleQuote else singleQuote

def literalChars (cs : List Char) : List Char :=
  let quote := literalQuote cs
  quote :: cs.flatMap (literalChar quote) ++ [quote]

def literal (s : String) : String := String.ofList (literalChars s.toList)

end LoanDispatch.Text
