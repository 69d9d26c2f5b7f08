/-!
The powers by which binary and decimal numbers are scaled.
-/

set_option autoImplicit false

namespace LoanDispatch.Number

def twoTo (power : Nat) : Nat := Nat.pow 2 power

def fiveTo (power : Nat) : Nat := Nat.pow 5 power

def tenTo (power : Nat) : Nat := Nat.pow 10 power

theorem twoTo_pos (power : Nat) : 0 < twoTo power := Nat.two_pow_pos power

theorem tenTo_pos (power : Nat) : 0 < tenTo power := Nat.pow_pos (by decide)

theorem twoTo_succ (power : Nat) : twoTo (power + 1) = twoTo power * 2 := rfl

end LoanDispatch.Number
