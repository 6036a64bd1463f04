import MemoryBank.Proofs.Number.Widening

set_option autoImplicit false

/-!
Doubles are narrowed to single precision in their order. Finite doubles are told apart by their
values in units of the least positive one, and of these the rounded magnitude is a function that
never falls. Main statement: `rank_ofFloat_le`.
-/

namespace MemoryBank

namespace Binary64

open Float.Model Float.Model.UnpackedFloat

/-- The distance from zero, in units of the least positive double. -/
def magnitude (x : Float) : Nat := (scaled x).mantissa * pow2 ((scaled x).exponent + 1074).toNat

theorem unpack_finite {x : Float} (h : finite x = true) :
    Canonical x.toModel.unpack ∧
      units x.toModel.unpack = (sign (negative x)).apply (magnitude x) := by
  have exponent : (@unpackExponent .binary64 x.toBits.toBitVec).toNat = biasedExponent x :=
    toNat_unpackExponent x.toBits
  have mantissa : (@unpackMantissa .binary64 x.toBits.toBitVec).toNat = fraction x :=
    toNat_unpackMantissa x.toBits
  have narrow : fraction x < pow2 52 := Nat.mod_lt _ (pow2_pos 52)
  have notLast : @unpackExponent .binary64 x.toBits.toBitVec ≠ -1#11 := by
    intro all
    rw [all] at exponent
    rw [finite, ← exponent] at h
    cases h
  have bias : Format.binary64.exponentBias = 1023 := rfl
  change Canonical (UnpackedFloat.unpack .binary64 x.toBits.toBitVec) ∧
    units (UnpackedFloat.unpack .binary64 x.toBits.toBitVec) = _
  unfold UnpackedFloat.unpack magnitude scaled
  rw [if_neg notLast, ofBitVec_unpackSign, ← negative]
  split
  · next first =>
    have zero : biasedExponent x = 0 := exponent.symm.trans (congrArg BitVec.toNat first)
    rw [if_pos zero]
    split
    · next none =>
      have empty : fraction x = 0 := mantissa.symm.trans (congrArg BitVec.toNat none)
      rw [empty]
      exact ⟨.zero _, by cases negative x <;> rfl⟩
    · have place : ((@unpackExponent .binary64 x.toBits.toBitVec).toNat : Int) -
          ((1023 : Nat) + (52 : Nat)) + 1 = -1074 := by omega
      have p53 : pow2 53 = pow2 52 + pow2 52 := rfl
      simp only [bias, place, units, mantissa]
      exact ⟨.finite _ _ (by omega) (by omega) (.inr rfl), trivial⟩
  · next some =>
    have positive : biasedExponent x ≠ 0 := by
      intro zero
      exact some (BitVec.eq_of_toNat_eq (exponent.trans zero))
    have whole : (1#1 ++ @unpackMantissa .binary64 x.toBits.toBitVec).toNat =
        fraction x + pow2 52 := (toNat_leadingOne _).trans (congrArg (· + pow2 52) mantissa)
    have place : ((@unpackExponent .binary64 x.toBits.toBitVec).toNat : Int) -
        ((1023 : Nat) + (52 : Nat)) = (biasedExponent x : Int) - 1075 := by omega
    have p53 : pow2 53 = pow2 52 + pow2 52 := rfl
    rw [if_neg positive]
    simp only [bias, place, units, whole]
    exact ⟨.finite _ _ (by omega) (by omega) (.inl (Nat.le_add_left _ _)), trivial⟩

theorem lt_iff_units {x y : Float} (hx : finite x = true) (hy : finite y = true) :
    x < y ↔ units x.toModel.unpack < units y.toModel.unpack := by
  change decide ((x.toModel.unpack.compare y.toModel.unpack == some .lt) = true) = true ↔ _
  rw [compare_canonical (unpack_finite hx).1 (unpack_finite hy).1]
  simp [Int.compare_eq_lt]

end Binary64

namespace Single

open Float.Model.UnpackedFloat

/-- The magnitude that a distance from zero is rounded to, from units of the least positive
double. -/
def narrowed (n : Nat) : Nat :=
  let place := max (n.log2 - 23) 925
  min ((place - 925) * pow2 23 + nearestEven n (pow2 place)) infinityBits

theorem nearestEven_exact (n : Nat) {d : Nat} (positive : 0 < d) : nearestEven (n * d) d = n := by
  have exact := nearestEven_mul_right n 1 positive
  rwa [Nat.one_mul, nearestEven_one] at exact

theorem round_eq (isNegative : Bool) {m : Nat} {e : Int} (least : -1074 ≤ e) :
    round isNegative ⟨m, e⟩ =
      ⟨UInt32.ofNat (signBit isNegative + narrowed (m * pow2 (e + 1074).toNat))⟩ := by
  obtain ⟨k, rfl⟩ : ∃ k : Nat, e = (k : Int) - 1074 := ⟨(e + 1074).toNat, by omega⟩
  rw [show ((k : Int) - 1074 + 1074).toNat = k by omega]
  by_cases zero : m = 0
  · rw [round, if_pos zero, zero, Nat.zero_mul]
    simp [narrowed, nearestEven]
  · have log := Binary64.log2_mul_pow2 (Nat.pos_of_ne_zero zero) k
    unfold round narrowed
    simp only [if_neg zero, log]
    obtain ⟨place, at'⟩ : ∃ place, max (m.log2 + k - 23) 925 = place := ⟨_, rfl⟩
    have same : max ((k : Int) - 1074 + m.log2 - 23) (-149) = (place : Int) - 1074 := by omega
    rw [at', same, show ((place : Int) - 1074 + 149).toNat = place - 925 by omega]
    have units : (if (place : Int) - 1074 ≤ (k : Int) - 1074 then
        m * pow2 ((k : Int) - 1074 - ((place : Int) - 1074)).toNat
        else nearestEven m (pow2 ((place : Int) - 1074 - ((k : Int) - 1074)).toNat)) =
          nearestEven (m * pow2 k) (pow2 place) := by
      split
      · rw [show ((k : Int) - 1074 - ((place : Int) - 1074)).toNat = k - place by omega,
          ← nearestEven_exact (m * pow2 (k - place)) (pow2_pos place), Nat.mul_assoc, ← pow2_add,
          Nat.sub_add_cancel (by omega)]
      · rw [show ((place : Int) - 1074 - ((k : Int) - 1074)).toNat = place - k by omega,
          ← nearestEven_mul_right m _ (pow2_pos k), ← pow2_add, Nat.sub_add_cancel (by omega)]
    rw [units]

theorem narrowed_le (n : Nat) : narrowed n ≤ infinityBits := Nat.min_le_right _ _

/-- The last place that is kept has 24 bits in front of it, or fewer. -/
theorem nearestEven_le (n place : Nat) (wide : n.log2 - 23 ≤ place) :
    nearestEven n (pow2 place) ≤ pow2 24 := by
  have below : n < pow2 24 * pow2 place := by
    calc n < pow2 (n.log2 + 1) := Binary64.lt_pow2_log2 n
      _ ≤ pow2 (24 + place) := pow2_le (by omega)
      _ = pow2 24 * pow2 place := pow2_add 24 place
  have quotient : n / pow2 place < pow2 24 := (Nat.div_lt_iff_lt_mul (pow2_pos _)).mpr below
  exact Nat.le_trans (nearestEven_bounds n (pow2 place)).2 quotient

theorem le_nearestEven {n : Nat} (some : n ≠ 0) (place : Nat) (narrow : place ≤ n.log2 - 23)
    (large : 23 ≤ n.log2) : pow2 23 ≤ nearestEven n (pow2 place) := by
  have above : pow2 23 * pow2 place ≤ n := by
    calc pow2 23 * pow2 place = pow2 (23 + place) := (pow2_add 23 place).symm
      _ ≤ pow2 n.log2 := pow2_le (by omega)
      _ ≤ n := Binary64.pow2_log2_le some
  have quotient : pow2 23 ≤ n / pow2 place := (Nat.le_div_iff_mul_le (pow2_pos _)).mpr above
  exact Nat.le_trans quotient (nearestEven_bounds n (pow2 place)).1

theorem narrowed_mono {m n : Nat} (h : m ≤ n) : narrowed m ≤ narrowed n := by
  have logs : m.log2 ≤ n.log2 := by
    by_cases zero : m = 0
    · simp [zero]
    · exact (Nat.le_log2 (by omega)).mpr (Nat.le_trans (Binary64.pow2_log2_le zero) h)
  refine min_le_min_right _ ?_
  by_cases same : max (m.log2 - 23) 925 = max (n.log2 - 23) 925
  · rw [same]
    exact Nat.add_le_add_left (nearestEven_mono _ h) _
  · -- the larger number has a coarser last place, and 24 bits in front of it
    have p24 : pow2 24 = pow2 23 + pow2 23 := rfl
    have some : n ≠ 0 := by
      rintro rfl
      simp at logs same
      omega
    have upper := nearestEven_le m (max (m.log2 - 23) 925) (Nat.le_max_left _ _)
    have lower := le_nearestEven some (max (n.log2 - 23) 925) (by omega) (by omega)
    have step : (max (m.log2 - 23) 925 - 925 + 1) * pow2 23 ≤
        (max (n.log2 - 23) 925 - 925) * pow2 23 := Nat.mul_le_mul_right _ (by omega)
    rw [Nat.add_mul, Nat.one_mul] at step
    omega

theorem rank_ofNat (isNegative : Bool) {n : Nat} (bound : n ≤ infinityBits) :
    rank ⟨UInt32.ofNat (signBit isNegative + n)⟩ = if isNegative then -(n : Int) - 1 else n := by
  have p31 : pow2 31 = 2147483648 := rfl
  have limit : infinityBits = 2139095040 := rfl
  have range : signBit isNegative + n < 4294967296 := by
    cases isNegative <;> simp only [signBit, Bool.false_eq_true, if_true, if_false] <;> omega
  have value : (UInt32.ofNat (signBit isNegative + n)).toNat = signBit isNegative + n :=
    Nat.mod_eq_of_lt range
  unfold rank negative magnitude
  rw [value, p31]
  cases isNegative <;>
    simp only [signBit, Bool.false_eq_true, if_true, if_false, p31, decide_eq_true_eq] <;> grind

theorem rank_injective {x y : Single} (same : x.rank = y.rank) : x = y := by
  have p31 : pow2 31 = 2147483648 := rfl
  have left : x.bits.toNat < 4294967296 := x.bits.toNat_lt
  have right : y.bits.toNat < 4294967296 := y.bits.toNat_lt
  unfold rank negative magnitude at same
  simp only [p31, decide_eq_true_eq] at same
  have bits : x.bits.toNat = y.bits.toNat := by grind
  exact congrArg Single.mk (UInt32.toNat_inj.mp bits)

theorem rank_ofFloat {x : Float} (h : Binary64.finite x = true) :
    (ofFloat x).rank = if Binary64.negative x then -(narrowed (Binary64.magnitude x) : Int) - 1
      else narrowed (Binary64.magnitude x) := by
  have least : -1074 ≤ (Binary64.scaled x).exponent := by
    unfold Binary64.scaled
    split
    · exact le_rfl
    · next some =>
      have positive := Nat.pos_of_ne_zero some
      simp only
      omega
  rw [ofFloat, if_pos h, round_eq _ least]
  exact rank_ofNat _ (narrowed_le _)

theorem rank_ofFloat_le {x y : Float} (hx : Binary64.finite x = true)
    (hy : Binary64.finite y = true) (less : x < y) : (ofFloat x).rank ≤ (ofFloat y).rank := by
  rw [Binary64.lt_iff_units hx hy, (Binary64.unpack_finite hx).2,
    (Binary64.unpack_finite hy).2] at less
  rw [rank_ofFloat hx, rank_ofFloat hy]
  have up := @narrowed_mono (Binary64.magnitude x) (Binary64.magnitude y)
  have down := @narrowed_mono (Binary64.magnitude y) (Binary64.magnitude x)
  -- below zero the larger magnitude is the smaller number
  generalize Binary64.negative x = a at less ⊢
  generalize Binary64.negative y = b at less ⊢
  cases a <;> cases b <;>
    simp only [Binary64.sign, Sign.apply, Bool.false_eq_true, if_true, if_false] at less ⊢ <;> omega

/-- Two doubles in their order either become the same number, or stay in it. -/
theorem rank_ofFloat_lt {x y : Float} (hx : Binary64.finite x = true)
    (hy : Binary64.finite y = true) (less : x < y) (apart : ofFloat x ≠ ofFloat y) :
    (ofFloat x).rank < (ofFloat y).rank :=
  lt_of_le_of_ne (rank_ofFloat_le hx hy less) fun same => apart (rank_injective same)

end Single

end MemoryBank
