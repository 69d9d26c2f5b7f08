import LoanDispatch.Proofs.Email.Layout
import LoanDispatch.Proofs.Number.Amount

/-!
The amount in a message.  A floating point number is rounded to hundredths.  An integer is shown as the
number next to it, so only integers of few bits are shown as they are.
-/

set_option autoImplicit false

namespace LoanDispatch.Email

open Number

/-- The number that an amount is; none for a missing amount and for one that is not finite. -/
def exactAmount? : Value → Option ℚ
  | .int number => some number
  | .float number => number.value?
  | _ => none

section Shown

variable {value : Value} {exact : ℚ}

/-- What is written for an amount: floating point numbers are shown, integers are shown by the number
next to them. -/
theorem amountText_of_exact (amount : exactAmount? value = some exact)
    (fits : ∀ number, value = .int number → number.natAbs < Binary64.overflow) :
    ∃ words numeral, amountText value = .ok words ∧ WritesAmount words numeral ∧
      (ShowsAmount words exact ↔ ∀ number, value = .int number → FewBits number.natAbs) ∧
      ∀ number, value = .int number →
        numeral.fraction = ['0', '0'] ∧
        (Binary64.ofInt? number).bind Binary64.value? = some numeral.signed ∧
        (numeral.signed = number ↔ FewBits number.natAbs) := by
  cases value with
  | int number =>
    cases amount
    cases found : Binary64.ofInt? number with
    | none =>
      exact absurd (fits number rfl) (Nat.not_lt.mpr ((Binary64.ofInt?_eq_none_iff number).mp found))
    | some near =>
      obtain ⟨numeral, written, zeros, next, shown, value, same⟩ := writesAmount_ofInt? found
      refine ⟨_, numeral, by rw [amountText, amountText.wholeText, found], written, ?_, ?_⟩
      · rw [showsAmount_ofInt?_iff found]
        constructor
        · rintro few other ⟨⟩
          exact few
        · intro few
          exact few number rfl
      · intro other same
        cases same
        refine ⟨zeros, by rw [found, Option.bind_some, next], ?_⟩
        rw [value, Int.cast_inj, same]
  | float number =>
    cases number with
    | nan => cases amount
    | infinite negative => cases amount
    | finite negative size =>
      cases amount
      refine ⟨_, _, rfl, writesAmount_amountText negative size, ?_, ?_⟩
      · refine iff_of_true (showsAmount_amountText negative size) ?_
        rintro number ⟨⟩
      · rintro number ⟨⟩
  | _ => cases amount

/-- Rounding carries over all the digits. -/
example : amountText (.float (.ofDecimal false 999995 (-3))) = .ok "1,000.00" := by decide +kernel

end Shown

/-- The body shows an amount within half a hundredth unless it is an integer of too many bits, which is
shown as the integer next to it among the floating point numbers; one that is too large for them is
not shown, and there is no body. -/
theorem requested_amount_is_shown {payload : Payload} {exact : ℚ}
    (amount : exactAmount? payload.application.requestedAmount = some exact) :
    (LargeAmount payload.application → ∀ message, body payload ≠ .ok message) ∧
    (¬ LargeAmount payload.application → ∃ words numeral,
      WritesAmount words numeral ∧
      (ShowsAmount words exact ↔
        ∀ number, payload.application.requestedAmount = .int number → FewBits number.natAbs) ∧
      (∀ number, payload.application.requestedAmount = .int number →
        numeral.fraction = ['0', '0'] ∧
        (Binary64.ofInt? number).bind Binary64.value? = some numeral.signed ∧
        (numeral.signed = number ↔ FewBits number.natAbs)) ∧
      (∀ message, body payload = .ok message →
        ∃ parts : Parts, parts.amount = words ∧ message = Text.ended parts.lines) ∧
      (Writable payload → ∃ message, body payload = .ok message)) := by
  constructor
  · intro large message made
    obtain ⟨parts, fill, -⟩ := body_eq_ok_iff.mp made
    cases (amountText_of_large large).symm.trans fill.amount
  · intro fits
    have inside (number : Int) (same : payload.application.requestedAmount = .int number) :
        number.natAbs < Binary64.overflow :=
      Nat.not_le.mp fun beyond => fits ⟨number, same, beyond⟩
    obtain ⟨words, numeral, text, written, near, integers⟩ := amountText_of_exact amount inside
    refine ⟨words, numeral, written, near, integers, ?_, ?_⟩
    · intro message made
      obtain ⟨parts, fill, same⟩ := body_eq_ok_iff.mp made
      exact ⟨parts, Except.ok.inj (fill.amount.symm.trans text), same⟩
    · intro writable
      obtain ⟨_, _, -, -, made⟩ := body_of_writable writable
      exact ⟨_, made⟩

theorem amountPayload_writable {amount : Int} (fits : amount.natAbs < Binary64.overflow) :
    Writable (amountPayload amount) := by
  have documents := small_documents_writable (Payload.smallMoment .utc)
  refine writable_of_wellTyped (amountPayload_wellTyped amount) ?_ fun document member =>
    (documents document member).short
  rintro ⟨number, same, beyond⟩
  cases same
  exact absurd fits (Nat.not_lt.mpr beyond)

/-- The last of the integers that are shown one after the other. -/
theorem last_amount_of_few_bits_is_shown :
    let payload := amountPayload 9007199254740992
    ∃ words, ShowsAmount words 9007199254740992 ∧
      ∃ parts : Parts, parts.amount = words ∧ body payload = .ok (Text.ended parts.lines) := by
  intro payload
  have writable : Writable payload := amountPayload_writable (by decide +kernel)
  have exact : exactAmount? payload.application.requestedAmount = some 9007199254740992 := rfl
  obtain ⟨words, numeral, -, shown, -, body, made⟩ :=
    (requested_amount_is_shown exact).2 writable.fits
  obtain ⟨message, same⟩ := made writable
  obtain ⟨parts, amount, rfl⟩ := body message same
  refine ⟨words, shown.mpr ?_, parts, amount, same⟩
  rintro number ⟨⟩
  exact fewBits_of_le (by decide)

/-- The next integer has a bit more, and the body shows the one before it. -/
theorem next_amount_is_shown_as_another :
    let payload := amountPayload 9007199254740993
    payload.WellTyped ∧
      body payload = .ok (Text.ended ["Application: Acme", "Application ID: A-1", "Product: term",
        "Requested Amount: 9,007,199,254,740,992.00", "Submitted At: 2024-03-01T12:30:00+00:00", "",
        "Documents:", "  - Statement (bank, v3)"]) ∧
      ¬ ShowsAmount "9,007,199,254,740,992.00" 9007199254740993 := by
  intro payload
  refine ⟨amountPayload_wellTyped _, by decide +kernel, ?_⟩
  have many : ¬ FewBits (9007199254740993 : Int).natAbs :=
    fun few => absurd (lt_of_fewBits_of_odd few (by decide)) (by decide)
  obtain ⟨near, found, text⟩ := Option.map_eq_some_iff.mp (show
    (Binary64.ofInt? 9007199254740993).map (·.amountText amountFormat)
      = some "9,007,199,254,740,992.00" by decide +kernel)
  rw [← text]
  exact mt (showsAmount_ofInt?_iff found).mp many

end LoanDispatch.Email
