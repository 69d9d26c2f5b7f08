import LoanDispatch.Json.Printer
import LoanDispatch.Json.Reader
import LoanDispatch.Proofs.Number.Nearest
import LoanDispatch.Proofs.Number.Printing

/-!
Numbers as JSON writes them.  A numeral has a sign, whole digits, and it may have a fraction and an
exponent; it is read up to the first character that cannot go on with it.  Integers and the shortest
decimals are written as numerals of their own value, so they are read back.
-/

set_option autoImplicit false

namespace LoanDispatch.Json

open Number Text

/-- A numeral ends before these characters. -/
def NumberEnds (rest : List Char) : Prop :=
  ∀ c, rest.head? = some c → c.isDigit = false ∧ c ≠ '.' ∧ c ≠ 'e' ∧ c ≠ 'E'

theorem numberEnds_nil : NumberEnds [] := nofun

section Taking

variable {cs rest : List Char}

theorem asciiDigit?_of_not_isDigit {c : Char} (other : c.isDigit = false) :
    asciiDigit? c = none := by
  rw [asciiDigit?, if_neg]
  intro digit
  have same : c.isDigit = true := by
    simp only [Char.isDigit, Bool.and_eq_true, decide_eq_true_eq]
    exact digit
  rw [other] at same
  cases same

theorem takeDigits_append (digits : ∀ c ∈ cs, c.isDigit = true)
    (stops : ∀ c, rest.head? = some c → c.isDigit = false) :
    takeDigits (cs ++ rest) = (digitValues cs, rest) := by
  induction cs with
  | nil =>
    cases rest with
    | nil => rfl
    | cons c others =>
      rw [List.nil_append, takeDigits, asciiDigit?_of_not_isDigit (stops c rfl)]
      rfl
  | cons c cs ih =>
    obtain ⟨digit, later⟩ := List.forall_mem_cons.mp digits
    rw [List.cons_append, takeDigits, Calendar.asciiDigit?_of_isDigit digit]
    simp only [ih later]
    rfl

theorem takeFraction_of_end (ends : rest.head? ≠ some '.') : takeFraction rest = (none, rest) := by
  cases rest with
  | nil => rfl
  | cons c others =>
    unfold takeFraction
    split
    · next same =>
      cases same
      exact absurd rfl ends
    · rfl

theorem takeExponent_of_end (ends : NumberEnds rest) : takeExponent rest = (none, rest) := by
  cases rest with
  | nil => rfl
  | cons c others =>
    obtain ⟨_, _, small, capital⟩ := ends c rfl
    rw [takeExponent, if_neg (by simp [small, capital])]

end Taking

/-- The parts of a written number; without a point the fraction is empty, and an exponent has its sign
and its digits. -/
structure Numeral where
  negative : Bool
  whole : List Char
  fraction : List Char
  exponent : Option (Bool × List Char)

namespace Numeral

def fractionChars (numeral : Numeral) : List Char :=
  if numeral.fraction = [] then [] else '.' :: numeral.fraction

def exponentChars (numeral : Numeral) : List Char :=
  match numeral.exponent with
  | none => []
  | some (negative, digits) => 'e' :: (if negative then '-' else '+') :: digits

def chars (numeral : Numeral) : List Char :=
  (if numeral.negative then ['-'] else [])
    ++ (numeral.whole ++ (numeral.fractionChars ++ numeral.exponentChars))

def exponentValue? (numeral : Numeral) : Option Int :=
  numeral.exponent.map fun power =>
    let size : Int := ofDigits 10 (digitValues power.2)
    if power.1 then -size else size

/-- What the numeral stands for, without its sign. -/
def decimal (numeral : Numeral) : Decimal :=
  ⟨ofDigits 10 (digitValues (numeral.whole ++ numeral.fraction)),
    numeral.exponentValue?.getD 0 - numeral.fraction.length⟩

structure Sound (numeral : Numeral) : Prop where
  whole_digits : ∀ c ∈ numeral.whole, c.isDigit = true
  whole_filled : numeral.whole ≠ []
  leading : numeral.whole = ['0'] ∨ numeral.whole.head? ≠ some '0'
  fraction_digits : ∀ c ∈ numeral.fraction, c.isDigit = true
  exponent_digits : ∀ power ∈ numeral.exponent, power.2 ≠ [] ∧ ∀ c ∈ power.2, c.isDigit = true

variable {numeral : Numeral} {rest : List Char}

theorem head?_exponentChars (numeral : Numeral) (ends : NumberEnds rest) (c : Char)
    (first : (numeral.exponentChars ++ rest).head? = some c) : c.isDigit = false ∧ c ≠ '.' := by
  unfold exponentChars at first
  split at first
  · exact ⟨(ends c first).1, (ends c first).2.1⟩
  · cases first
    exact ⟨rfl, by decide⟩

theorem head?_fractionChars (numeral : Numeral) (ends : NumberEnds rest) (c : Char)
    (first : (numeral.fractionChars ++ (numeral.exponentChars ++ rest)).head? = some c) :
    c.isDigit = false := by
  unfold fractionChars at first
  split at first
  · exact (numeral.head?_exponentChars ends c first).1
  · cases first
    rfl

theorem Sound.takeMinus_chars (sound : numeral.Sound) :
    takeMinus (numeral.chars ++ rest)
      = (numeral.negative,
          numeral.whole ++ (numeral.fractionChars ++ (numeral.exponentChars ++ rest))) := by
  cases shape : numeral.whole with
  | nil => exact absurd shape sound.whole_filled
  | cons c cs =>
    have digit := sound.whole_digits c (shape ▸ List.mem_cons_self)
    have plain : c ≠ '-' := Calendar.ne_of_isDigit digit rfl
    cases sign : numeral.negative with
    | true => simp [chars, sign, shape, takeMinus]
    | false =>
      simp only [chars, sign, shape, Bool.false_eq_true, if_false, List.nil_append,
        List.cons_append, List.append_assoc]
      unfold takeMinus
      split
      · next same =>
        cases same
        exact absurd rfl plain
      · rfl

theorem Sound.takeWhole_append (sound : numeral.Sound)
    (stops : ∀ c, rest.head? = some c → c.isDigit = false) :
    takeWhole (numeral.whole ++ rest) = (digitValues numeral.whole, rest) := by
  rcases sound.leading with zero | other
  · rw [zero]
    rfl
  · unfold takeWhole
    split
    · next same =>
      cases shape : numeral.whole with
      | nil => exact absurd shape sound.whole_filled
      | cons c cs =>
        rw [shape] at same other
        cases same
        exact absurd rfl other
    · exact takeDigits_append sound.whole_digits stops

theorem Sound.takeFilledFraction_append (sound : numeral.Sound)
    (stops : ∀ c, rest.head? = some c → c.isDigit = false ∧ c ≠ '.') :
    takeFilledFraction (numeral.fractionChars ++ rest)
      = (if numeral.fraction = [] then none else some (digitValues numeral.fraction), rest) := by
  by_cases empty : numeral.fraction = []
  · have plain : rest.head? ≠ some '.' := fun same => (stops '.' same).2 rfl
    rw [fractionChars, if_pos empty, if_pos empty, List.nil_append, takeFilledFraction,
      takeFraction_of_end plain]
  · have digits := takeDigits_append sound.fraction_digits fun c first => (stops c first).1
    rw [fractionChars, if_neg empty, if_neg empty, List.cons_append, takeFilledFraction,
      takeFraction, digits]
    cases shape : numeral.fraction with
    | nil => exact absurd shape empty
    | cons c cs => rfl

theorem takeSign_mark (negative : Bool) (cs : List Char) :
    takeSign ((if negative then '-' else '+') :: cs) = (negative, cs) := by
  cases negative <;> rfl

theorem Sound.takeExponent_append (sound : numeral.Sound) (ends : NumberEnds rest) :
    takeExponent (numeral.exponentChars ++ rest) = (numeral.exponentValue?, rest) := by
  unfold exponentChars exponentValue?
  cases shape : numeral.exponent with
  | none => exact takeExponent_of_end ends
  | some power =>
    obtain ⟨negative, digits⟩ := power
    obtain ⟨filled, each⟩ := sound.exponent_digits _ shape
    have taken := takeDigits_append each fun c first => (ends c first).1
    cases digits with
    | nil => exact absurd rfl filled
    | cons c cs =>
      rw [List.cons_append, takeExponent, if_pos (.inl rfl), List.cons_append]
      simp only [takeSign_mark, taken]
      rfl

/-- A numeral is a floating point number when it has a fraction or an exponent. -/
def read? (numeral : Numeral) : Option Raw :=
  if numeral.fraction = [] ∧ numeral.exponent = none then
    if numeral.whole.length ≤ maxIntegerDigits then
      let size : Int := numeral.decimal.coefficient
      some (.int (if numeral.negative then -size else size))
    else none
  else
    some (.float
      (.ofDecimal numeral.negative numeral.decimal.coefficient numeral.decimal.exponent))

theorem Sound.takeNumber?_chars (sound : numeral.Sound) (ends : NumberEnds rest) :
    takeNumber? (numeral.chars ++ rest) = numeral.read?.map fun document => (document, rest) := by
  have stops := numeral.head?_exponentChars ends
  have fractionStops := numeral.head?_fractionChars ends
  have filled : digitValues numeral.whole ≠ [] := by
    simpa [digitValues] using sound.whole_filled
  rw [takeNumber?]
  simp only [sound.takeMinus_chars, sound.takeWhole_append fractionStops,
    sound.takeFilledFraction_append stops, sound.takeExponent_append ends, if_neg filled, read?]
  by_cases plain : numeral.fraction = [] ∧ numeral.exponent = none
  · obtain ⟨pointless, powerless⟩ := plain
    simp only [pointless, powerless, exponentValue?, decimal, length_digitValues, if_true,
      Option.map_none, Option.isNone_none, and_self, List.append_nil]
    split <;> rfl
  · have parted : ¬ ((if numeral.fraction = [] then none
        else some (digitValues numeral.fraction)).isNone = true ∧
          numeral.exponentValue?.isNone = true) := by
      rintro ⟨pointless, powerless⟩
      refine plain ⟨?_, Option.isNone_iff_eq_none.mp (by simpa [exponentValue?] using powerless)⟩
      by_contra filled
      rw [if_neg filled] at pointless
      cases pointless
    have digits : (if numeral.fraction = [] then none
        else some (digitValues numeral.fraction)).getD [] = digitValues numeral.fraction := by
      split
      · next empty =>
        rw [empty]
        rfl
      · rfl
    rw [if_neg plain, if_neg parted, digits, ofParts, ← digitValues_append, length_digitValues]
    rfl

end Numeral

end LoanDispatch.Json
