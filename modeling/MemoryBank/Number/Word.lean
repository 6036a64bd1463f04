set_option autoImplicit false

/-!
Powers, and the bounds of the words numbers are stored in.
-/

namespace MemoryBank

def pow2 (n : Nat) : Nat := Nat.pow 2 n

theorem pow2_pos (n : Nat) : 0 < pow2 n := Nat.two_pow_pos n

theorem pow2_add (m n : Nat) : pow2 (m + n) = pow2 m * pow2 n := Nat.pow_add 2 m n

theorem pow2_le {m n : Nat} (h : m ≤ n) : pow2 m ≤ pow2 n := Nat.pow_le_pow_right (by decide) h

def pow10 (n : Nat) : Nat := Nat.pow 10 n

namespace Word

/-- Signed words of 64 bits run from `-half64` to just below `half64`. -/
abbrev half64 : Int := 9223372036854775808

abbrev bound64 : Int := 18446744073709551616

abbrev bound32 : Int := 4294967296

theorem natAbs_lt {n : Int} (signed : -half64 ≤ n ∧ n < half64) : n.natAbs < pow2 64 := by
  have p64 : pow2 64 = 18446744073709551616 := rfl
  simp only [half64] at signed
  omega

example : half64 = pow2 63 := by decide
example : bound64 = pow2 64 := by decide
example : bound32 = pow2 32 := by decide

end Word

end MemoryBank
