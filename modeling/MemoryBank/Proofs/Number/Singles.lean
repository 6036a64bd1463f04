import MemoryBank.Json.Basic
import MemoryBank.Proofs.Number.Rounding

set_option autoImplicit false

/-!
Widening keeps single-precision numbers finite.
-/

namespace MemoryBank

namespace Binary64

open Float.Model UnpackedFloat

theorem unpackExponent_pack_finite (s : Sign) {m : Nat} {e : Int} (positive : 0 < m)
    (bounded : e < 972) :
    unpackExponent (UnpackedFloat.pack .binary64 (.finite s m e positive)) ≠ -1#11 := by
  have bias : Format.binary64.exponentBias = 1023 := rfl
  rw [UnpackedFloat.pack]
  simp only [bias]
  rw [if_neg (by omega)]
  split
  · rw [unpackExponent_packComponents]
    intro all
    have := congrArg BitVec.toNat all
    simp at this
    omega
  · rw [unpackExponent_packComponents]
    decide

theorem toNat_unpackExponent (bits : UInt64) :
    (@unpackExponent .binary64 bits.toBitVec).toNat = bits.toNat / pow2 52 % pow2 11 := by
  have shifted : (@unpackExponent .binary64 bits.toBitVec).toNat = bits.toNat >>> 52 % 2048 := by
    simp [unpackExponent]
  rw [shifted, Nat.shiftRight_eq_div_pow]
  rfl

theorem finite_of_unpackExponent {x : Float}
    (h : @unpackExponent .binary64 x.toBits.toBitVec ≠ -1#11) : finite x = true := by
  rw [finite, biasedExponent, ← toNat_unpackExponent, bne_iff_ne]
  exact fun all => h (BitVec.eq_of_toNat_eq all)

theorem finite_ofBits {n : Nat} (range : n < pow2 64) (exponent : n / pow2 52 % pow2 11 ≠ 2047) :
    finite (Float.ofBits (UInt64.ofNat n)) = true := by
  have value : (UInt64.ofNat n).toNat = n := Nat.mod_eq_of_lt range
  generalize UInt64.ofNat n = bits at value
  rw [← value, ← toNat_unpackExponent] at exponent
  refine finite_of_unpackExponent ?_
  change unpackExponent
    (UnpackedFloat.pack .binary64 (UnpackedFloat.unpack .binary64 bits.toBitVec)) ≠ _
  have bias : Format.binary64.exponentBias = 1023 := rfl
  have width : Format.binary64.mantissaBitsWithoutImplicit = 52 := rfl
  have bound : (@unpackExponent .binary64 bits.toBitVec).toNat < 2048 := BitVec.isLt _
  have notLast : @unpackExponent .binary64 bits.toBitVec ≠ -1#11 :=
    fun all => exponent (congrArg BitVec.toNat all)
  unfold UnpackedFloat.unpack
  rw [if_neg notLast]
  split
  · next first =>
    split
    · rw [UnpackedFloat.pack, packedZero, unpackExponent_packComponents]
      decide
    · refine unpackExponent_pack_finite _ _ ?_
      have zero : (@unpackExponent .binary64 bits.toBitVec).toNat = 0 :=
        congrArg BitVec.toNat first
      rw [bias, width, zero]
      decide
  · refine unpackExponent_pack_finite _ _ ?_
    rw [bias, width]
    omega

theorem finite_ofScaled (isNegative : Bool) {m : Nat} {e : Int}
    (range : m ≠ 0 → m.log2 ≤ 52 ∧ e + m.log2 < 1024) :
    finite (ofScaled isNegative ⟨m, e⟩) = true := by
  have p11 : pow2 11 = 2048 := rfl
  have p52 : pow2 52 = 4503599627370496 := rfl
  have p63 : pow2 63 = 9223372036854775808 := rfl
  have p64 : pow2 64 = 18446744073709551616 := rfl
  unfold ofScaled
  simp only
  split
  · cases isNegative <;> exact finite_ofBits (by decide) (by decide)
  · next some =>
    obtain ⟨narrow, low⟩ := range some
    have log := log2_mul_pow2 (Nat.pos_of_ne_zero some) (52 - m.log2)
    rw [Nat.add_sub_cancel' narrow] at log
    have bounded : (e + m.log2 + 1023).toNat < 2047 := by omega
    generalize m * pow2 (52 - m.log2) = shifted at log ⊢
    generalize (e + m.log2 + 1023).toNat = biased at bounded ⊢
    have least := pow2_log2_le (n := shifted) (by rintro rfl; exact absurd log (by decide))
    have most := lt_pow2_log2 shifted
    rw [log] at least most
    refine finite_ofBits ?_ ?_
    · rw [p52, p64]
      cases isNegative <;> simp only [Bool.false_eq_true, if_true, if_false] <;> omega
    · rw [p52, p11]
      cases isNegative <;> simp only [Bool.false_eq_true, if_true, if_false] <;> omega

end Binary64

namespace Single

theorem finite_toFloat {x : Single} (h : x.finite = true) : Binary64.finite x.toFloat = true := by
  have p23 : pow2 23 = 8388608 := rfl
  have range : x.magnitude < 255 * pow2 23 := of_decide_eq_true h
  rw [p23] at range
  unfold toFloat
  simp only [p23]
  have biased : x.magnitude / 8388608 < 255 := by omega
  generalize x.magnitude / 8388608 = b at biased
  generalize bounded : x.magnitude % 8388608 = fraction
  rw [if_neg (by omega)]
  split
  · refine Binary64.finite_ofScaled _ fun some => ?_
    have log : fraction.log2 < 23 := (Nat.log2_lt some).mpr (by omega)
    omega
  · refine Binary64.finite_ofScaled _ fun some => ?_
    have log : (fraction + 8388608).log2 < 24 := (Nat.log2_lt some).mpr (by omega)
    omega

end Single

theorem Json.float?_ofSingle {x : Single} (h : x.finite = true) :
    (Json.ofSingle x).float? = some x.toFloat := by
  rw [ofSingle, ofFloat, if_pos (Single.finite_toFloat h)]
  rfl

end MemoryBank
