import LoanDispatch.Text.Range

/-!
Blank characters and trimming.  `trim` removes blanks at both ends and nothing else: a trimmed text
begins and ends with no blank, and trimming it again changes nothing.
-/

set_option autoImplicit false

namespace LoanDispatch.Text

/-- The white space of Unicode together with the four information separators. -/
def blankRanges : List (Nat × Nat) :=
  [(0x9, 0xD), (0x1C, 0x20), (0x85, 0x85), (0xA0, 0xA0), (0x1680, 0x1680), (0x2000, 0x200A),
   (0x2028, 0x2029), (0x202F, 0x202F), (0x205F, 0x205F), (0x3000, 0x3000)]

/-- The information separators, which are blank but no white space. -/
def isSeparator (c : Char) : Bool := 0x1C ≤ c.toNat && c.toNat ≤ 0x1F

def isBlank (c : Char) : Bool := memRanges blankRanges c

def trimEnd (cs : List Char) : List Char :=
  (cs.reverse.dropWhile isBlank).reverse

def trimChars (cs : List Char) : List Char :=
  trimEnd (cs.dropWhile isBlank)

def trim (s : String) : String :=
  String.ofList (trimChars s.toList)

def trimWhite (cs : List Char) : List Char :=
  let isWhite (c : Char) : Bool := isBlank c && !isSeparator c
  ((cs.dropWhile isWhite).reverse.dropWhile isWhite).reverse

end LoanDispatch.Text
