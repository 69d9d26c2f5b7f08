import LoanDispatch.Number.Fixed

/-!
Durations between two readings of the clock.
-/

set_option autoImplicit false

namespace LoanDispatch.Script

def duration (start stop : Nat) : Number.Binary64 :=
  (Number.Binary64.ofInt? ((stop : Int) - start)).getD .nan

def durationFormat : Number.AmountFormat := ⟨1, false⟩

end LoanDispatch.Script
