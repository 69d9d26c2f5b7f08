import LoanDispatch.Json.Printer
import LoanDispatch.Json.Reader
import Mathlib.Tactic.SplitIfs

/-!
Texts as JSON writes them.  Every escape is read as the character that it stands for, a character
outside the first plane out of both halves of its surrogate pair, so a quoted text is read back up to
its closing quote.
-/

set_option autoImplicit false

namespace LoanDispatch.Json

open Text

section Escapes

theorem hexValue?_digitChar {digit : Nat} (small : digit < 16) :
    hexValue? (digitChar digit) = some digit := by
  have all : ∀ digit < 16, hexValue? (digitChar digit) = some digit := by decide
  exact all digit small

theorem takeUnit?_hexDigits {unit : Nat} (small : unit < 0x10000) (rest : List Point) :
    takeUnit? (Point.ofChars (hexDigits 4 unit) ++ rest) = some (unit, rest) := by
  have digit (n : Nat) : hexValue? (digitChar (n % 16)) = some (n % 16) :=
    hexValue?_digitChar (Nat.mod_lt n (by decide))
  have whole : ((unit / 16 / 16 / 16 % 16 * 16 + unit / 16 / 16 % 16) * 16 + unit / 16 % 16) * 16
      + unit % 16 = unit := by omega
  simp only [hexDigits, Point.ofChars, List.map_cons, List.map_nil, List.nil_append,
    List.cons_append, takeUnit?, digit, Option.bind_eq_bind, Option.bind_some, whole]
  rfl

theorem takeSecondHalf?_unitEscape {unit : Nat} (low : 0xDC00 ≤ unit ∧ unit < 0xE000)
    (rest : List Point) :
    takeSecondHalf? (Point.ofChars (unitEscape unit) ++ rest) = some (unit, rest) := by
  have small : unit < 0x10000 := by omega
  have taken := takeUnit?_hexDigits small rest
  simp only [Point.ofChars] at taken
  simp only [unitEscape, Point.ofChars, List.map_cons, List.cons_append, takeSecondHalf?, taken,
    Option.bind_eq_bind, Option.bind_some]
  rw [if_pos low]

theorem takeEscape?_unit {c : Char} (small : c.toNat < 0x10000) (rest : List Point) :
    takeEscape? (.char 'u' :: (Point.ofChars (hexDigits 4 c.toNat) ++ rest))
      = some (.char c, rest) := by
  have whole : c.toNat < 0xD800 ∨ 0xE000 ≤ c.toNat := c.valid.imp id And.left
  simp only [takeEscape?, takeUnit?_hexDigits small, Option.bind_eq_bind, Option.bind_some,
    Point.ofNat?_toNat]
  rw [if_neg (by omega)]
  rfl

theorem takeEscape?_pair {first second : Nat} (high : 0xD800 ≤ first ∧ first < 0xDC00)
    (low : 0xDC00 ≤ second ∧ second < 0xE000) (rest : List Point) :
    takeEscape? (.char 'u' :: (Point.ofChars (hexDigits 4 first)
        ++ (Point.ofChars (unitEscape second) ++ rest)))
      = some (.char (Char.ofNat (0x10000 + (first - 0xD800) * 0x400 + (second - 0xDC00))), rest) := by
  have small : first < 0x10000 := by omega
  simp only [takeEscape?, takeUnit?_hexDigits small, Option.bind_eq_bind, Option.bind_some,
    if_pos high, takeSecondHalf?_unitEscape low]

/-- After a backslash these characters are read as the character. -/
def Escapes (c : Char) (code : List Char) : Prop :=
  ∀ rest, takeEscape? (Point.ofChars code ++ rest) = some (.char c, rest)

theorem unicodeEscape_escapes (c : Char) :
    ∃ code, unicodeEscape c = '\\' :: code ∧ Escapes c code := by
  have top : c.toNat < 0x110000 := by
    rcases c.valid with low | high
    · exact Nat.lt_trans low (by decide)
    · exact high.2
  rw [unicodeEscape]
  split
  · next small => exact ⟨_, rfl, fun rest => takeEscape?_unit small rest⟩
  · next large =>
    refine ⟨'u' :: (hexDigits 4 (0xD800 + (c.toNat - 0x10000) / 0x400)
      ++ unitEscape (0xDC00 + (c.toNat - 0x10000) % 0x400)), rfl, fun rest => ?_⟩
    have code : 0x10000 + (0xD800 + (c.toNat - 0x10000) / 0x400 - 0xD800) * 0x400
        + (0xDC00 + (c.toNat - 0x10000) % 0x400 - 0xDC00) = c.toNat := by omega
    have high : 0xD800 ≤ 0xD800 + (c.toNat - 0x10000) / 0x400
        ∧ 0xD800 + (c.toNat - 0x10000) / 0x400 < 0xDC00 := by omega
    have low : 0xDC00 ≤ 0xDC00 + (c.toNat - 0x10000) % 0x400
        ∧ 0xDC00 + (c.toNat - 0x10000) % 0x400 < 0xE000 := by omega
    have pair := takeEscape?_pair high low rest
    rw [code, Char.ofNat_toNat] at pair
    rw [← pair, ← List.append_assoc, ← Point.ofChars_append]
    rfl

/-- A character is written as itself, or as a backslash and its escape. -/
theorem escapeChar_cases (asciiOnly : Bool) (c : Char) :
    (escapeChar asciiOnly c = [c] ∧ c ≠ doubleQuote ∧ c ≠ '\\' ∧ 32 ≤ c.toNat) ∨
    ∃ code, escapeChar asciiOnly c = '\\' :: code ∧ Escapes c code := by
  unfold escapeChar
  split_ifs with quoted line back tab eight twelve control
  · refine .inr ⟨[c], rfl, fun rest => ?_⟩
    rcases quoted with rfl | rfl <;> rfl
  · exact .inr ⟨['n'], rfl, fun rest => line ▸ rfl⟩
  · exact .inr ⟨['r'], rfl, fun rest => back ▸ rfl⟩
  · exact .inr ⟨['t'], rfl, fun rest => tab ▸ rfl⟩
  · refine .inr ⟨['b'], rfl, fun rest => ?_⟩
    rw [← Char.ofNat_toNat c, eight]
    rfl
  · refine .inr ⟨['f'], rfl, fun rest => ?_⟩
    rw [← Char.ofNat_toNat c, twelve]
    rfl
  · exact .inr (unicodeEscape_escapes c)
  · obtain ⟨unquoted, slashless⟩ := not_or.mp quoted
    exact .inl ⟨rfl, unquoted, slashless, Nat.not_lt.mp (not_or.mp control).1⟩

end Escapes

section Quoted

theorem takeString?_escapeChar (asciiOnly : Bool) (c : Char) (fuel : Nat) (rest : List Point) :
    takeString? (fuel + 1) (Point.ofChars (escapeChar asciiOnly c) ++ rest)
      = (takeString? fuel rest).map fun taken => (.char c :: taken.1, taken.2) := by
  rcases escapeChar_cases asciiOnly c with ⟨own, unquoted, slashless, printed⟩ | ⟨code, own, escapes⟩
  · have other {mark : Char} (apart : c ≠ mark) : Point.char c ≠ .char mark :=
      fun same => apart (Point.char.inj same)
    have unmarked : Point.char c ≠ quoteMark := other unquoted
    have plain : ¬ isControl (.char c) := by simpa [isControl, Point.char?] using printed
    rw [own, Point.ofChars, List.map_singleton, List.singleton_append, takeString?,
      if_neg unmarked, if_neg (other slashless), if_neg plain]
    cases takeString? fuel rest <;> rfl
  · have taken := escapes rest
    rw [Point.ofChars] at taken
    rw [own, Point.ofChars, List.map_cons, List.cons_append, takeString?, if_neg (by decide),
      if_pos rfl]
    simp only [taken, Option.bind_eq_bind, Option.bind_some]
    cases takeString? fuel rest <;> rfl

/-- A quoted text is read back up to its closing quote. -/
theorem takeString?_quoted (asciiOnly : Bool) (cs : List Char) {fuel : Nat}
    (enough : cs.length < fuel) (rest : List Point) :
    takeString? fuel (Point.ofChars (cs.flatMap (escapeChar asciiOnly)) ++ quoteMark :: rest)
      = some (Point.ofChars cs, rest) := by
  induction cs generalizing fuel with
  | nil =>
    obtain ⟨fuel, rfl⟩ := Nat.exists_eq_succ_of_ne_zero (Nat.ne_of_gt enough)
    rfl
  | cons c cs ih =>
    obtain ⟨fuel, rfl⟩ := Nat.exists_eq_succ_of_ne_zero (Nat.ne_zero_of_lt enough)
    rw [List.flatMap_cons, Point.ofChars_append, List.append_assoc, takeString?_escapeChar,
      ih (Nat.lt_of_succ_lt_succ enough)]
    rfl

theorem length_le_escaped (asciiOnly : Bool) (cs : List Char) :
    cs.length ≤ (cs.flatMap (escapeChar asciiOnly)).length := by
  induction cs with
  | nil => exact Nat.le_refl 0
  | cons c cs ih =>
    have one : 1 ≤ (escapeChar asciiOnly c).length := by
      rcases escapeChar_cases asciiOnly c with ⟨own, -⟩ | ⟨code, own, -⟩ <;> simp [own]
    rw [List.flatMap_cons, List.length_append, List.length_cons]
    omega

/-- The opening quote is read first, and the rest bounds the characters. -/
theorem takeString?_quoteChars (asciiOnly : Bool) (cs : List Char) (rest : List Point) :
    ∃ tail, Point.ofChars (quoteChars asciiOnly cs) ++ rest = quoteMark :: tail ∧
      takeString? (tail.length + 1) tail = some (Point.ofChars cs, rest) := by
  refine ⟨Point.ofChars (cs.flatMap (escapeChar asciiOnly)) ++ quoteMark :: rest, ?_, ?_⟩
  · simp [quoteChars, Point.ofChars, quoteMark]
  · refine takeString?_quoted asciiOnly cs ?_ rest
    have long := length_le_escaped asciiOnly cs
    rw [List.length_append, Point.ofChars, List.length_map]
    omega

end Quoted

end LoanDispatch.Json
