import MemoryBank.Proofs.Number.Narrowing

set_option autoImplicit false

/-!
The values of finite doubles. An integer that is one of them is its own nearest, and so is every
integer of 53 bits.
-/

namespace MemoryBank

namespace Binary64

open Float.Model Float.Model.UnpackedFloat

/-- The value of a finite double. -/
def value (x : Float) : ℚ :=
  let distance : ℚ := (scaled x).mantissa * 2 ^ (scaled x).exponent
  if negative x then -distance else distance

theorem exponent_scaled (x : Float) : -1074 ≤ (scaled x).exponent := by
  unfold scaled
  split
  · exact le_rfl
  · simp only
    omega

theorem mantissa_scaled (x : Float) : (scaled x).mantissa < pow2 53 := by
  have narrow : fraction x < pow2 52 := Nat.mod_lt _ (pow2_pos 52)
  have p53 : pow2 53 = pow2 52 + pow2 52 := rfl
  unfold scaled
  split <;> simp only <;> omega

theorem unitsOfOne_pos : 0 < (unitsOfOne : ℚ) := Nat.cast_pos.mpr (pow2_pos 1074)

theorem cast_pow2 (n : Nat) : (pow2 n : ℚ) = 2 ^ (n : Int) := by
  rw [pow2, Nat.pow_eq, Nat.cast_pow, Nat.cast_ofNat, zpow_natCast]

theorem cast_magnitude (x : Float) :
    (magnitude x : ℚ) = (scaled x).mantissa * 2 ^ (scaled x).exponent * unitsOfOne := by
  have least := exponent_scaled x
  have place : (((scaled x).exponent + 1074).toNat : Int) =
      (scaled x).exponent + (1074 : Nat) := by omega
  rw [magnitude, Nat.cast_mul, unitsOfOne, cast_pow2, cast_pow2, place, zpow_add₀ two_ne_zero,
    mul_assoc]

theorem cast_units {x : Float} (h : finite x = true) :
    (units x.toModel.unpack : ℚ) = value x * unitsOfOne := by
  rw [(unpack_finite h).2, value]
  cases negative x with
  | false => exact cast_magnitude x
  | true =>
    simp only [sign, if_true, Sign.apply, Int.cast_neg, Int.cast_natCast, neg_mul, cast_magnitude]

/-- A number of 53 bits and zeros is its own nearest. -/
theorem nearestNat_mul_pow2 {m : Nat} (narrow : m < pow2 53) (k : Nat) :
    nearestNat (m * pow2 k) = m * pow2 k := by
  rcases Nat.eq_zero_or_pos m with rfl | positive
  · rw [Nat.zero_mul]
    exact nearestNat_of_lt (pow2_pos 53)
  have log : m.log2 < 53 := (Nat.log2_lt (by omega)).mpr narrow
  obtain ⟨left, split⟩ : ∃ left, k = left + (m.log2 + k - 52) :=
    ⟨k - (m.log2 + k - 52), by omega⟩
  rw [nearestNat, log2_mul_pow2 positive]
  have exact := Single.nearestEven_exact (m * pow2 left) (pow2_pos (m.log2 + k - 52))
  rw [Nat.mul_assoc, ← pow2_add, ← split] at exact
  rw [exact, Nat.mul_assoc, ← pow2_add, ← split]

theorem nearest_of_natAbs {n : Int} (own : nearestNat n.natAbs = n.natAbs) : nearest n = n := by
  cases n with
  | ofNat n => exact congrArg Int.ofNat own
  | negSucc n => exact congrArg (fun k : Nat => -(k : Int)) own

/-- An integer that is the value of a double is its own nearest. -/
theorem nearest_of_value {x : Float} {n : Int} (h : finite x = true) (same : value x = n) :
    nearest n = n := by
  have units' := cast_units h
  rw [same, (unpack_finite h).2] at units'
  have whole : n.natAbs * unitsOfOne = magnitude x := by
    have signed : (sign (negative x)).apply (magnitude x) = n * unitsOfOne := by exact_mod_cast units'
    have size := congrArg Int.natAbs signed
    rw [Int.natAbs_mul, Int.natAbs_natCast] at size
    rw [← size]
    cases negative x <;> simp [sign, Sign.apply]
  have narrow := mantissa_scaled x
  refine nearest_of_natAbs ?_
  rw [magnitude, unitsOfOne] at whole
  by_cases fine : ((scaled x).exponent + 1074).toNat ≤ 1074
  · -- the value is a part of the mantissa
    refine nearestNat_of_lt (Nat.lt_of_le_of_lt ?_ narrow)
    refine Nat.le_of_mul_le_mul_right ?_ (pow2_pos 1074)
    rw [whole]
    exact Nat.mul_le_mul_left _ (pow2_le fine)
  · have split : pow2 ((scaled x).exponent + 1074).toNat =
        pow2 (((scaled x).exponent + 1074).toNat - 1074) * pow2 1074 := by
      rw [← pow2_add, Nat.sub_add_cancel (by omega)]
    rw [split, ← Nat.mul_assoc] at whole
    rw [Nat.eq_of_mul_eq_mul_right (pow2_pos 1074) whole]
    exact nearestNat_mul_pow2 narrow _

theorem nearest_of_natAbs_le {n : Int} (small : n.natAbs ≤ pow2 53) : nearest n = n := by
  refine nearest_of_natAbs ?_
  rcases Nat.lt_or_eq_of_le small with less | last
  · exact nearestNat_of_lt less
  · rw [last]
    exact nearestNat_mul_pow2 (by decide : 1 < pow2 53) 53

theorem le_natAbs_nearest {n : Int} (large : pow2 53 ≤ n.natAbs) :
    pow2 53 ≤ (nearest n).natAbs := by
  have limit : nearest (pow2 53 : Nat) = (pow2 53 : Nat) := nearest_of_natAbs_le le_rfl
  have limit' : nearest (-(pow2 53 : Nat)) = -(pow2 53 : Nat) := nearest_of_natAbs_le le_rfl
  by_cases positive : 0 ≤ n
  · have above := nearest_mono (show (pow2 53 : Nat) ≤ n by omega)
    omega
  · have below := nearest_mono (show n ≤ -(pow2 53 : Nat) by omega)
    omega

end Binary64

end MemoryBank
