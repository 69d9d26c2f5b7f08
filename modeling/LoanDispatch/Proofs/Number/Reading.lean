import LoanDispatch.Number.Reading

/-!
Which texts of numerals are read as integers: those whose characters are all decimal digits, as long
as they are not too many.
-/

set_option autoImplicit false

namespace LoanDispatch

namespace Text

def rangesApart (left right : List (Nat × Nat)) : Bool :=
  left.all fun one => right.all fun other => one.2 < other.1 || other.2 < one.1

theorem memRanges_of_rangesApart {left right : List (Nat × Nat)} {c : Char}
    (apart : rangesApart left right = true) (member : memRanges left c = true) :
    memRanges right c = false := by
  rw [Bool.eq_false_iff]
  intro other
  obtain ⟨one, inLeft, low, high⟩ := memRanges_iff.mp member
  obtain ⟨two, inRight, otherLow, otherHigh⟩ := memRanges_iff.mp other
  have gap := List.all_eq_true.mp (List.all_eq_true.mp apart one inLeft) two inRight
  simp only [Bool.or_eq_true, decide_eq_true_eq] at gap
  omega

theorem isDecimal_eq_memRanges (c : Char) : isDecimal c = memRanges decimalRanges c := by
  rw [isDecimal, decimalValue?, Option.isSome_map, List.isSome_find?]
  rfl

theorem isNumeral_eq_memRanges (c : Char) :
    isNumeral c = memRanges (decimalRanges ++ numeralRanges) c := by
  rw [isNumeral, isDecimal_eq_memRanges]
  simp [memRanges]

theorem isBlank_of_isNumeral {c : Char} (numeral : isNumeral c = true) : isBlank c = false :=
  memRanges_of_rangesApart (by decide +kernel) (isNumeral_eq_memRanges c ▸ numeral)

theorem ne_of_isNumeral {c other : Char} (numeral : isNumeral c = true)
    (plain : isNumeral other = false) : c ≠ other := by
  intro same
  subst same
  rw [numeral] at plain
  cases plain

theorem trimWhite_of_numerals {cs : List Char} (numerals : ∀ c ∈ cs, isNumeral c = true) :
    trimWhite cs = cs := by
  have kept : ∀ part : List Char, (∀ c ∈ part, isNumeral c = true) →
      (part.dropWhile fun c => isBlank c && !isSeparator c) = part := by
    intro part each
    cases part with
    | nil => rfl
    | cons c rest => simp [isBlank_of_isNumeral (each c List.mem_cons_self)]
  have reversed : ∀ c ∈ cs.reverse, isNumeral c = true :=
    fun c member => numerals c (List.mem_reverse.mp member)
  simp only [trimWhite]
  rw [kept cs numerals, kept cs.reverse reversed, List.reverse_reverse]

end Text

namespace Number

open Text

theorem takeSign_of_numerals {cs : List Char} (numerals : ∀ c ∈ cs, isNumeral c = true) :
    takeSign cs = (false, cs) := by
  unfold takeSign
  split
  · exact absurd (numerals '-' List.mem_cons_self) (by decide)
  · exact absurd (numerals '+' List.mem_cons_self) (by decide)
  · rfl

theorem underscoredDigits_cons {c : Char} (numeral : isNumeral c = true) (afterDigit : Bool)
    (rest : List Char) :
    underscoredDigits decimalValue? afterDigit (c :: rest)
      = (decimalValue? c).bind fun digit =>
          (underscoredDigits decimalValue? true rest).map (digit :: ·) := by
  have plain : c ≠ '_' := ne_of_isNumeral numeral (by decide)
  rw [underscoredDigits]
  · cases decimalValue? c <;> rfl
  · exact plain

theorem underscoredDigits_of_decimals {cs : List Char} (decimals : ∀ c ∈ cs, isDecimal c = true) :
    ∃ values, underscoredDigits decimalValue? true cs = some values ∧
      values.length = cs.length := by
  induction cs with
  | nil => exact ⟨[], rfl, rfl⟩
  | cons c rest ih =>
    have decimal := decimals c List.mem_cons_self
    obtain ⟨digit, value⟩ := Option.isSome_iff_exists.mp decimal
    obtain ⟨values, read, count⟩ := ih fun other member => decimals other (.tail c member)
    refine ⟨digit :: values, ?_, by simp [count]⟩
    rw [underscoredDigits_cons (by simp [isNumeral, decimal]), value, read]
    rfl

theorem underscoredDigits_of_not_decimal {cs : List Char}
    (numerals : ∀ c ∈ cs, isNumeral c = true) {c : Char} (member : c ∈ cs)
    (other : isDecimal c = false) : underscoredDigits decimalValue? true cs = none := by
  induction cs with
  | nil => cases member
  | cons first rest ih =>
    rw [underscoredDigits_cons (numerals first List.mem_cons_self)]
    rcases List.mem_cons.mp member with rfl | later
    · have none : decimalValue? c = none := by simpa [isDecimal] using other
      rw [none]
      rfl
    · rw [ih (fun other member => numerals other (.tail first member)) later]
      cases decimalValue? first <;> rfl

theorem allNumerals_of_decimals {cs : List Char} (filled : cs ≠ [])
    (decimals : ∀ c ∈ cs, isDecimal c = true) : allNumerals cs = true := by
  apply Bool.and_eq_true_iff.mpr
  constructor
  · simpa using filled
  · apply List.all_eq_true.mpr
    intro c member
    simp [isNumeral, decimals c member]

/-- A text of numerals that no integer can be read from: one of them has no decimal value, or they
are too many. -/
structure Unreadable (words : String) : Prop where
  numerals : allNumerals words.toList = true
  fails : (∃ c ∈ words.toList, isDecimal c = false) ∨ maxIntegerDigits < words.length

theorem Unreadable.ne_empty {words : String} (unreadable : Unreadable words) : words ≠ "" := by
  intro empty
  subst empty
  cases unreadable.numerals

theorem readInteger?_of_numerals {words : String} (numerals : allNumerals words.toList = true) :
    readInteger? words
      = match underscoredDigits decimalValue? true words.toList with
        | some values =>
          if values.length ≤ maxIntegerDigits then some (ofDigits 10 values : Int) else none
        | none => none := by
  obtain ⟨filled, all⟩ := Bool.and_eq_true_iff.mp numerals
  have each : ∀ c ∈ words.toList, isNumeral c = true := List.all_eq_true.mp all
  simp only [readInteger?, trimWhite_of_numerals each, takeSign_of_numerals each]
  cases shape : words.toList with
  | nil => simp [shape] at filled
  | cons c rest =>
    have numeral := each c (shape ▸ List.mem_cons_self)
    rw [underscoredDigits_cons numeral, underscoredDigits_cons numeral]
    rfl

theorem readInteger_of_unreadable {words : String} (unreadable : Unreadable words) :
    readInteger words = .error (integerMisfit words) := by
  have each : ∀ c ∈ words.toList, isNumeral c = true :=
    List.all_eq_true.mp (Bool.and_eq_true_iff.mp unreadable.numerals).2
  have fails : readInteger? words = none := by
    rw [readInteger?_of_numerals unreadable.numerals]
    by_cases decimals : ∀ c ∈ words.toList, isDecimal c = true
    · obtain ⟨values, read, count⟩ := underscoredDigits_of_decimals decimals
      have many : ¬ values.length ≤ maxIntegerDigits := by
        rw [count, String.length_toList]
        rcases unreadable.fails with ⟨c, member, other⟩ | many
        · exact absurd (decimals c member) (by simp [other])
        · omega
      simp only [read, if_neg many]
    · obtain ⟨c, member, other⟩ : ∃ c ∈ words.toList, isDecimal c = false := by
        simpa using decimals
      simp only [underscoredDigits_of_not_decimal each member other]
  simp only [readInteger, fails]

theorem exists_readInteger {words : String} (decimals : ∀ c ∈ words.toList, isDecimal c = true)
    (filled : words.toList ≠ []) (few : words.length ≤ maxIntegerDigits) :
    ∃ number, readInteger words = .ok number := by
  have numerals := allNumerals_of_decimals filled decimals
  obtain ⟨values, read, count⟩ := underscoredDigits_of_decimals decimals
  have enough : values.length ≤ maxIntegerDigits := by rwa [count, String.length_toList]
  refine ⟨ofDigits 10 values, ?_⟩
  simp only [readInteger, readInteger?_of_numerals numerals, read, if_pos enough]

/-- Numerals carry no sign. -/
theorem natural_of_readInteger {words : String} {number : Int}
    (numerals : allNumerals words.toList = true) (read : readInteger words = .ok number) :
    ∃ index : Nat, number = index := by
  rw [readInteger, readInteger?_of_numerals numerals] at read
  cases values : underscoredDigits decimalValue? true words.toList with
  | none =>
    rw [values] at read
    cases read
  | some digits =>
    rw [values] at read
    dsimp only at read
    split at read
    · next count same =>
      split at same
      · cases same
        cases read
        exact ⟨ofDigits 10 digits, rfl⟩
      · cases same
    · cases read

/-- Of the texts of numerals, the unreadable ones are all that cannot be read. -/
theorem readInteger_eq_error_iff {words : String} (numerals : allNumerals words.toList = true)
    (misfit : Misfit) :
    readInteger words = .error misfit ↔ Unreadable words ∧ misfit = integerMisfit words := by
  constructor
  · intro failed
    have unreadable : Unreadable words := by
      refine ⟨numerals, ?_⟩
      refine Classical.byContradiction fun readable => ?_
      obtain ⟨decimals, few⟩ := not_or.mp readable
      have filled : words.toList ≠ [] := by
        intro empty
        simp [empty, allNumerals] at numerals
      obtain ⟨number, read⟩ := exists_readInteger (by simpa using decimals) filled (by omega)
      cases failed.symm.trans read
    refine ⟨unreadable, ?_⟩
    cases failed.symm.trans (readInteger_of_unreadable unreadable)
    rfl
  · intro unread
    obtain ⟨unreadable, rfl⟩ := unread
    exact readInteger_of_unreadable unreadable

end Number

end LoanDispatch
