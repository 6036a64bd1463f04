import MemoryBank.Proofs.Number.Doubles
import MemoryBank.Proofs.Number.Singles

set_option autoImplicit false

/-!
Single-precision numbers compare as the doubles they are widened to. Main statements: the order is
that of the magnitudes with their signs (`lt_toFloat`, `beq_toFloat`), and the rank of a number
tells only the two zeros apart where the doubles do not.
-/

namespace MemoryBank.Binary64
open Float.Model Float.Model.UnpackedFloat

def sign (isNegative : Bool) : Sign := if isNegative then .negative else .positive

theorem toNat_unpackMantissa (bits : UInt64) :
    (@unpackMantissa .binary64 bits.toBitVec).toNat = bits.toNat % pow2 52 := by
  have low : (@unpackMantissa .binary64 bits.toBitVec).toNat = bits.toNat % 4503599627370496 := by
    simp [unpackMantissa]
  exact low

/-- A normal number has one more bit than its mantissa field. -/
theorem toNat_leadingOne (mantissa : BitVec 52) :
    (1#1 ++ mantissa).toNat = mantissa.toNat + pow2 52 := by
  rw [BitVec.toNat_append, ← Nat.shiftLeft_add_eq_or_of_lt (BitVec.isLt _), Nat.shiftLeft_eq,
    Nat.add_comm]
  simp [pow2]

theorem ofBitVec_unpackSign (bits : UInt64) :
    Sign.ofBitVec (@unpackSign .binary64 bits.toBitVec) = sign (bits.toNat / pow2 63 == 1) := by
  have p63 : pow2 63 = 9223372036854775808 := rfl
  have range : bits.toNat < 18446744073709551616 := bits.toNat_lt
  have high : (@unpackSign .binary64 bits.toBitVec).toNat = bits.toNat >>> 63 % 2 := by
    simp [unpackSign]
  rw [Nat.shiftRight_eq_div_pow, show 2 ^ 63 = pow2 63 from rfl, p63] at high
  rw [p63]
  have bit : bits.toNat / 9223372036854775808 = 0 ∨ bits.toNat / 9223372036854775808 = 1 := by
    omega
  rcases bit with zero | one
  · rw [zero] at high ⊢
    rw [show @unpackSign .binary64 bits.toBitVec = 0#1 from BitVec.eq_of_toNat_eq high]
    rfl
  · rw [one] at high ⊢
    rw [show @unpackSign .binary64 bits.toBitVec = 1#1 from BitVec.eq_of_toNat_eq high]
    rfl

theorem unpack_fields {bits : UInt64} {isNegative : Bool} {b f : Nat}
    (value : bits.toNat = (if isNegative then pow2 63 else 0) + b * pow2 52 + f)
    (normal : 0 < b ∧ b < 2047) (fraction : f < pow2 52) :
    UnpackedFloat.unpack .binary64 bits.toBitVec =
      .finite (sign isNegative) (f + pow2 52) ((b : Int) - 1075)
        (Nat.add_pos_right _ (pow2_pos 52)) := by
  have p11 : pow2 11 = 2048 := rfl
  have p52 : pow2 52 = 4503599627370496 := rfl
  have p63 : pow2 63 = 9223372036854775808 := rfl
  have exponent : (@unpackExponent .binary64 bits.toBitVec).toNat = b := by
    rw [toNat_unpackExponent, value, p11, p52, p63]
    cases isNegative <;> simp only [Bool.false_eq_true, if_true, if_false] <;> omega
  have notLast : @unpackExponent .binary64 bits.toBitVec ≠ -1#11 := by
    intro all
    have := congrArg BitVec.toNat all
    rw [exponent] at this
    simp at this
    omega
  have notFirst : @unpackExponent .binary64 bits.toBitVec ≠ 0#11 := by
    intro all
    have := congrArg BitVec.toNat all
    rw [exponent] at this
    simp at this
    omega
  have mantissa : (@unpackMantissa .binary64 bits.toBitVec).toNat = f := by
    rw [toNat_unpackMantissa, value, p52, p63]
    cases isNegative <;> simp only [Bool.false_eq_true, if_true, if_false] <;> omega
  have whole : (1#1 ++ @unpackMantissa .binary64 bits.toBitVec).toNat = f + pow2 52 :=
    (toNat_leadingOne _).trans (congrArg (· + pow2 52) mantissa)
  have signed : bits.toNat / pow2 63 = if isNegative then 1 else 0 := by
    rw [value, p52, p63]
    cases isNegative <;> simp only [Bool.false_eq_true, if_true, if_false] <;> omega
  simp only [UnpackedFloat.unpack, if_neg notLast, if_neg notFirst, whole, ofBitVec_unpackSign,
    signed, exponent]
  cases isNegative <;> rfl

theorem toNat_ofNat {n : Nat} (range : n < pow2 64) : (UInt64.ofNat n).toNat = n :=
  Nat.mod_eq_of_lt range

theorem unpack_ofBits (isNegative : Bool) {b f : Nat} (normal : 0 < b ∧ b < 2047)
    (fraction : f < pow2 52) :
    (Float.ofBits (UInt64.ofNat ((if isNegative then pow2 63 else 0) + b * pow2 52 +
      f))).toModel.unpack = .finite (sign isNegative) (f + pow2 52) ((b : Int) - 1075)
        (Nat.add_pos_right _ (pow2_pos 52)) := by
  have range : (if isNegative then pow2 63 else 0) + b * pow2 52 + f < pow2 64 := by
    have p52 : pow2 52 = 4503599627370496 := rfl
    have p63 : pow2 63 = 9223372036854775808 := rfl
    have p64 : pow2 64 = 18446744073709551616 := rfl
    rw [p52] at fraction ⊢
    rw [p63, p64]
    cases isNegative <;> simp only [Bool.false_eq_true, if_true, if_false] <;> omega
  have value := toNat_ofNat range
  generalize UInt64.ofNat _ = bits at value
  change (Float.Model.pack (UnpackedFloat.unpack .binary64 bits.toBitVec)).unpack = _
  have p53 : pow2 53 = pow2 52 + pow2 52 := rfl
  rw [unpack_fields value normal fraction]
  exact unpack_pack _ _ (Nat.le_add_left _ _) (p53 ▸ Nat.add_lt_add_right fraction _)
    (by omega) (by omega)

/-- A double that is put together from a mantissa and an exponent in the normal range. -/
theorem unpack_ofScaled (isNegative : Bool) {m : Nat} {e : Int} (positive : 0 < m)
    (narrow : m.log2 ≤ 52) (least : -1022 ≤ e + m.log2) (most : e + m.log2 < 1024) :
    ∃ positive : 0 < m * pow2 (52 - m.log2), (ofScaled isNegative ⟨m, e⟩).toModel.unpack =
      .finite (sign isNegative) (m * pow2 (52 - m.log2)) (e + m.log2 - 52) positive := by
  have log := log2_mul_pow2 positive (52 - m.log2)
  rw [Nat.add_sub_cancel' narrow] at log
  have some : m * pow2 (52 - m.log2) ≠ 0 := Nat.ne_of_gt (Nat.mul_pos positive (pow2_pos _))
  have lower := pow2_log2_le some
  have upper := lt_pow2_log2 (m * pow2 (52 - m.log2))
  rw [log] at lower upper
  refine ⟨Nat.pos_of_ne_zero some, ?_⟩
  unfold ofScaled
  simp only
  rw [if_neg (Nat.ne_of_gt positive)]
  obtain ⟨b, biased⟩ : ∃ b : Nat, (e + m.log2 + 1023).toNat = b := ⟨_, rfl⟩
  have place : (b : Int) - 1075 = e + m.log2 - 52 := by omega
  have whole : m * pow2 (52 - m.log2) - pow2 52 + pow2 52 = m * pow2 (52 - m.log2) :=
    Nat.sub_add_cancel lower
  rw [biased, unpack_ofBits isNegative (by omega) (by omega)]
  simp only [whole, place]

theorem canonical_ofScaled (isNegative : Bool) {m : Nat} {e : Int} (fine : -1074 ≤ e)
    (range : m ≠ 0 → m.log2 ≤ 52 ∧ -1022 ≤ e + m.log2 ∧ e + m.log2 < 1024) :
    Canonical (ofScaled isNegative ⟨m, e⟩).toModel.unpack ∧
      units (ofScaled isNegative ⟨m, e⟩).toModel.unpack =
        (sign isNegative).apply (m * pow2 (e + 1074).toNat : Nat) := by
  by_cases zero : m = 0
  · obtain rfl := zero
    have unpacked : (ofScaled isNegative ⟨0, e⟩).toModel.unpack = .zero (sign isNegative) := by
      unfold ofScaled
      simp only [if_true]
      cases isNegative <;> rfl
    rw [unpacked, Nat.zero_mul]
    exact ⟨.zero _, by cases isNegative <;> rfl⟩
  · obtain ⟨narrow, least, most⟩ := range zero
    have log := log2_mul_pow2 (Nat.pos_of_ne_zero zero) (52 - m.log2)
    rw [Nat.add_sub_cancel' narrow] at log
    obtain ⟨positive, unpacked⟩ :=
      unpack_ofScaled isNegative (Nat.pos_of_ne_zero zero) narrow least most
    have lower := pow2_log2_le (Nat.ne_of_gt positive)
    have upper := lt_pow2_log2 (m * pow2 (52 - m.log2))
    rw [log] at lower upper
    rw [unpacked]
    refine ⟨.finite _ positive upper (by omega) (.inl lower), ?_⟩
    rw [units, Nat.mul_assoc, ← pow2_add,
      show 52 - m.log2 + (e + m.log2 - 52 + 1074).toNat = (e + 1074).toNat by omega]

end MemoryBank.Binary64

namespace MemoryBank.Single

open Binary64 Float.Model Float.Model.UnpackedFloat

/-- The distance from zero, in units of the least positive number. -/
def steps (magnitude : Nat) : Nat :=
  if magnitude / pow2 23 = 0 then magnitude % pow2 23
  else (magnitude % pow2 23 + pow2 23) * pow2 (magnitude / pow2 23 - 1)

theorem steps_lt_succ (n : Nat) : steps n < steps (n + 1) := by
  have p23 : pow2 23 = 8388608 := rfl
  unfold steps
  rw [p23]
  by_cases carries : n % 8388608 + 1 = 8388608
  · rw [show (n + 1) / 8388608 = n / 8388608 + 1 by omega,
      show (n + 1) % 8388608 = 0 by omega, if_neg (Nat.succ_ne_zero _)]
    split
    · next first =>
      rw [first]
      exact Nat.lt_of_lt_of_eq (Nat.mod_lt _ (by decide)) rfl
    · next b =>
      have double : pow2 (n / 8388608) = pow2 (n / 8388608 - 1) * 2 := by
        rw [show n / 8388608 = n / 8388608 - 1 + 1 by omega]
        exact pow2_add _ 1
      have := pow2_pos (n / 8388608 - 1)
      rw [Nat.add_sub_cancel, double, show n % 8388608 = 8388607 by omega]
      omega
  · rw [show (n + 1) / 8388608 = n / 8388608 by omega,
      show (n + 1) % 8388608 = n % 8388608 + 1 by omega]
    split
    · exact Nat.lt_succ_self _
    · exact Nat.mul_lt_mul_of_pos_right (by omega) (pow2_pos _)

theorem unpack_toFloat {x : Single} (h : x.finite = true) :
    Canonical x.toFloat.toModel.unpack ∧
      units x.toFloat.toModel.unpack =
        (sign x.negative).apply (steps x.magnitude * pow2 925 : Nat) := by
  have p23 : pow2 23 = 8388608 := rfl
  have p24 : pow2 (23 + 1) = 16777216 := rfl
  have range : x.magnitude < 255 * pow2 23 := of_decide_eq_true h
  rw [p23] at range
  unfold toFloat steps
  simp only [p23]
  have biased : x.magnitude / 8388608 < 255 := by omega
  generalize x.magnitude / 8388608 = b at biased
  generalize bounded : x.magnitude % 8388608 = fraction
  rw [if_neg (by omega)]
  split
  · refine canonical_ofScaled _ (by decide) fun some => ?_
    have log : fraction.log2 < 23 := (Nat.log2_lt some).mpr (by omega)
    omega
  · next some =>
    have log : (fraction + 8388608).log2 = 23 := log2_eq (by omega) (by omega)
    have scaled := canonical_ofScaled x.negative (m := fraction + 8388608) (e := (b : Int) - 150)
      (by omega) fun _ => by omega
    refine ⟨scaled.1, scaled.2.trans ?_⟩
    rw [Nat.mul_assoc, ← pow2_add, show ((b : Int) - 150 + 1074).toNat = b - 1 + 925 by omega]

theorem steps_lt_iff {m n : Nat} : steps m < steps n ↔ m < n := by
  have grows {m n : Nat} (less : m < n) : steps m < steps n := by
    induction less with
    | refl => exact steps_lt_succ m
    | step _ ih => exact Nat.lt_trans ih (steps_lt_succ _)
  refine ⟨fun less => ?_, grows⟩
  rcases Nat.lt_trichotomy m n with before | rfl | after
  · exact before
  · exact absurd less (Nat.lt_irrefl _)
  · exact absurd (Nat.lt_trans less (grows after)) (Nat.lt_irrefl _)

/-- The magnitude with the sign; both zeros have the same. -/
def signed (x : Single) : Int := if x.negative then -(x.magnitude : Int) else x.magnitude

/-- Infinite, or finite. -/
def isNumber (x : Single) : Bool := x.magnitude ≤ infinityBits

theorem compare_signs (a b : Bool) {g : Nat → Nat} (zero : g 0 = 0)
    (mono : ∀ {m n}, g m < g n ↔ m < n) (m n : Nat) :
    compare ((sign a).apply (g m)) ((sign b).apply (g n)) =
      compare (if a then -(m : Int) else m) (if b then -(n : Int) else n) := by
  have left := @mono 0 m
  have right := @mono 0 n
  have up := @mono m n
  have down := @mono n m
  rw [zero] at left right
  have orders : ((sign a).apply (g m) < (sign b).apply (g n) ↔
        (if a then -(m : Int) else m) < if b then -(n : Int) else n) ∧
      ((sign b).apply (g n) < (sign a).apply (g m) ↔
        (if b then -(n : Int) else n) < if a then -(m : Int) else m) := by
    cases a <;> cases b <;>
      simp only [sign, Sign.apply, Bool.false_eq_true, if_true, if_false] <;> omega
  simp only [Int.compare_eq_ite_lt, orders.1, orders.2]

theorem unpack_infinite {x : Single} (h : x.magnitude = infinityBits) :
    x.toFloat.toModel.unpack = .infinity (sign x.negative) := by
  unfold toFloat
  rw [h]
  cases x.negative <;> rfl

theorem unpack_undefined {x : Single} (h : x.isNumber = false) :
    x.toFloat.toModel.unpack = .notANumber := by
  have p23 : pow2 23 = 8388608 := rfl
  have p31 : pow2 31 = 2147483648 := rfl
  have above : infinityBits < x.magnitude := Nat.lt_of_not_le (of_decide_eq_false h)
  have below : x.magnitude < pow2 31 := Nat.mod_lt _ (pow2_pos 31)
  rw [infinityBits, p23] at above
  rw [p31] at below
  unfold toFloat
  simp only [p23]
  rw [if_pos (by omega), if_neg (by omega)]
  rfl

theorem compare_infinite {x y : Single} (hx : x.magnitude = infinityBits)
    (hy : y.finite = true) :
    x.toFloat.toModel.unpack.compare y.toFloat.toModel.unpack =
        some (compare x.signed y.signed) ∧
      y.toFloat.toModel.unpack.compare x.toFloat.toModel.unpack =
        some (compare y.signed x.signed) := by
  have below : y.magnitude < infinityBits := of_decide_eq_true hy
  have canonical := (unpack_toFloat hy).1
  rw [unpack_infinite hx, signed, signed, hx]
  simp only [Int.compare_eq_ite_lt]
  generalize y.toFloat.toModel.unpack = u at canonical
  -- an infinity does not look at what it is compared with, as long as that is finite
  cases x.negative with
  | false =>
    have less : (if y.negative then -(y.magnitude : Int) else y.magnitude) < infinityBits := by
      split <;> omega
    rw [if_neg Bool.false_ne_true, if_pos less, if_neg (by omega), if_pos less]
    cases canonical <;> exact ⟨rfl, rfl⟩
  | true =>
    have less : -(infinityBits : Int) <
        if y.negative then -(y.magnitude : Int) else y.magnitude := by
      split <;> omega
    rw [if_pos rfl, if_pos less, if_neg (by omega), if_pos less]
    cases canonical <;> exact ⟨rfl, rfl⟩

theorem compare_toFloat {x y : Single} (hx : x.isNumber = true) (hy : y.isNumber = true) :
    x.toFloat.toModel.unpack.compare y.toFloat.toModel.unpack =
      some (compare x.signed y.signed) := by
  have split {z : Single} (hz : z.isNumber = true) :
      z.finite = true ∨ z.magnitude = infinityBits := by
    rw [finite, decide_eq_true_eq]
    exact Nat.lt_or_eq_of_le (of_decide_eq_true hz)
  rcases split hx with fx | ix <;> rcases split hy with fy | iy
  · obtain ⟨cx, ux⟩ := unpack_toFloat fx
    obtain ⟨cy, uy⟩ := unpack_toFloat fy
    rw [compare_canonical cx cy, ux, uy]
    have positive := pow2_pos 925
    generalize pow2 925 = scale at positive
    have zero : steps 0 * scale = 0 := Nat.zero_mul scale
    have mono {m n : Nat} : steps m * scale < steps n * scale ↔ m < n :=
      (Nat.mul_lt_mul_right positive).trans steps_lt_iff
    exact congrArg some (compare_signs x.negative y.negative zero mono x.magnitude y.magnitude)
  · exact (compare_infinite iy fx).2
  · exact (compare_infinite ix fy).1
  · rw [unpack_infinite ix, unpack_infinite iy, signed, signed, ix, iy]
    cases x.negative <;> cases y.negative <;> rfl

/-- Comparing a number that is none fails, whatever it is compared with. -/
theorem compare_undefined {x y : Single} (h : x.isNumber = false ∨ y.isNumber = false) :
    x.toFloat.toModel.unpack.compare y.toFloat.toModel.unpack = none := by
  rcases h with none | none
  · rw [unpack_undefined none]
    rfl
  · rw [unpack_undefined none]
    cases x.toFloat.toModel.unpack <;> rfl

theorem compare_toFloat_eq_some {x y : Single} {order : Ordering} :
    x.toFloat.toModel.unpack.compare y.toFloat.toModel.unpack = some order ↔
      x.isNumber = true ∧ y.isNumber = true ∧ compare x.signed y.signed = order := by
  cases hx : x.isNumber with
  | false => simp [compare_undefined (.inl hx)]
  | true =>
    cases hy : y.isNumber with
    | false => simp [compare_undefined (.inr hy)]
    | true => simp [compare_toFloat hx hy]

theorem lt_toFloat {x y : Single} :
    x.toFloat < y.toFloat ↔ x.isNumber = true ∧ y.isNumber = true ∧ x.signed < y.signed := by
  change decide ((x.toFloat.toModel.unpack.compare y.toFloat.toModel.unpack ==
    some .lt) = true) = true ↔ _
  rw [decide_eq_true_eq, beq_iff_eq, compare_toFloat_eq_some, Int.compare_eq_lt]

theorem beq_toFloat {x y : Single} : (x.toFloat == y.toFloat) = true ↔
    x.isNumber = true ∧ y.isNumber = true ∧ x.signed = y.signed := by
  change (x.toFloat.toModel.unpack.compare y.toFloat.toModel.unpack == some .eq) = true ↔ _
  rw [beq_iff_eq, compare_toFloat_eq_some, Int.compare_eq_eq]

def negativeZero : Single := ⟨0x80000000⟩

theorem rank_lt_of_signed_lt {x y : Single} (less : x.signed < y.signed) : x.rank < y.rank := by
  unfold signed at less
  unfold rank
  cases hx : x.negative <;> cases hy : y.negative <;>
    simp only [hx, hy, Bool.false_eq_true, if_true, if_false] at less ⊢ <;> omega

theorem eq_zero_of_magnitude {x : Single} (none : x.magnitude = 0) :
    x = if x.negative then negativeZero else zero := by
  have p31 : pow2 31 = 2147483648 := rfl
  have range : x.bits.toNat < 4294967296 := x.bits.toNat_lt
  rw [magnitude, p31] at none
  cases sign : x.negative with
  | false =>
    rw [negative, decide_eq_false_iff_not, p31] at sign
    have bits : x.bits = 0 := UInt32.toNat_inj.mp (show x.bits.toNat = 0 by omega)
    exact congrArg Single.mk bits
  | true =>
    rw [negative, decide_eq_true_eq, p31] at sign
    have bits : x.bits = 0x80000000 :=
      UInt32.toNat_inj.mp (show x.bits.toNat = 2147483648 by omega)
    exact congrArg Single.mk bits

/-- The rank tells apart numbers that are not equal, and besides these the two zeros. -/
theorem zeros_of_rank_lt {x y : Single} (below : x.rank < y.rank) (same : x.signed = y.signed) :
    x = negativeZero ∧ y = zero := by
  have zeros : x.negative = true ∧ y.negative = false ∧ x.magnitude = 0 ∧ y.magnitude = 0 := by
    unfold rank at below
    unfold signed at same
    cases hx : x.negative <;> cases hy : y.negative <;>
      simp only [hx, hy, Bool.false_eq_true, if_true, if_false] at below same
    case true.false => exact ⟨rfl, rfl, by omega, by omega⟩
    all_goals omega
  obtain ⟨negative, positive, left, right⟩ := zeros
  have hx := eq_zero_of_magnitude left
  have hy := eq_zero_of_magnitude right
  rw [negative] at hx
  rw [positive] at hy
  exact ⟨hx, hy⟩

end MemoryBank.Single
