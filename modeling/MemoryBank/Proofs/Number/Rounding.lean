import Mathlib
import MemoryBank.Number.Single

set_option autoImplicit false

/-!
How a double is rounded: bit by bit, with two bits kept of what is dropped. Main statement:
`roundWithAccuracy_normal`, that this is rounding to the nearest, a tie to the even neighbour.
-/

namespace MemoryBank

theorem Single.nearestEven_bounds (n d : Nat) :
    n / d ≤ Single.nearestEven n d ∧ Single.nearestEven n d ≤ n / d + 1 := by
  grind [Single.nearestEven]

theorem Single.nearestEven_one (n : Nat) : Single.nearestEven n 1 = n := by
  simp [Single.nearestEven, Nat.mod_one]

theorem Single.nearestEven_mul_right (n d : Nat) {c : Nat} (positive : 0 < c) :
    Single.nearestEven (n * c) (d * c) = Single.nearestEven n d := by
  simp only [Single.nearestEven, Nat.mul_div_mul_right n d positive, Nat.mul_mod_mul_right,
    ← Nat.mul_assoc, Nat.mul_lt_mul_right positive]

theorem Single.nearestEven_mono {m n : Nat} (d : Nat) (h : m ≤ n) :
    Single.nearestEven m d ≤ Single.nearestEven n d := by
  have quotient : m / d ≤ n / d := Nat.div_le_div_right h
  by_cases same : m / d = n / d
  · have first := Nat.div_add_mod m d
    have second := Nat.div_add_mod n d
    have rest : m % d ≤ n % d := by rw [same] at first; omega
    grind [Single.nearestEven]
  · have := Single.nearestEven_bounds m d
    have := Single.nearestEven_bounds n d
    omega

namespace Binary64

open Float.Model Float.Model.UnpackedFloat

theorem pow2_log2_le {n : Nat} (h : n ≠ 0) : pow2 n.log2 ≤ n := Nat.log2_self_le h

theorem lt_pow2_log2 (n : Nat) : n < pow2 n.log2 * 2 := Nat.lt_log2_self

theorem log2_eq {n k : Nat} (lower : pow2 k ≤ n) (upper : n < pow2 (k + 1)) : n.log2 = k :=
  (Nat.log2_eq_iff (Nat.ne_of_gt (Nat.lt_of_lt_of_le (pow2_pos k) lower))).mpr ⟨lower, upper⟩

theorem log2_mul_pow2 {n : Nat} (positive : 0 < n) (k : Nat) : (n * pow2 k).log2 = n.log2 + k := by
  apply log2_eq
  · rw [pow2_add]
    exact Nat.mul_le_mul_right _ (pow2_log2_le (Nat.ne_of_gt positive))
  · rw [show n.log2 + k + 1 = n.log2 + 1 + k by omega, pow2_add]
    exact Nat.mul_lt_mul_of_pos_right (lt_pow2_log2 n) (pow2_pos k)

-- The two bits tell how twice the remainder compares with the divisor.
structure Shifted (mantissa divisor : Nat) (em : ExtendedMantissa) : Prop where
  quotient : em.mantissa = mantissa / divisor
  roundBit : em.roundBit = decide (divisor ≤ 2 * (mantissa % divisor))
  stickyBit : em.stickyBit = decide (2 * (mantissa % divisor) % divisor ≠ 0)

theorem shifted_exact (mantissa : Nat) : Shifted mantissa 1 ⟨mantissa, false, false⟩ := by
  constructor <;> simp [Nat.mod_one]

theorem shifted_one {mantissa divisor : Nat} {em : ExtendedMantissa} (positive : 0 < divisor)
    (h : Shifted mantissa divisor em) :
    Shifted mantissa (divisor * 2) em.shiftRightOne := by
  have split : mantissa % (divisor * 2) =
      mantissa % divisor + divisor * (mantissa / divisor % 2) := Nat.mod_mul
  have bound : mantissa % divisor < divisor := Nat.mod_lt _ positive
  have parity : mantissa / divisor % 2 = 0 ∨ mantissa / divisor % 2 = 1 :=
    Nat.mod_two_eq_zero_or_one _
  have dropped : 2 * (mantissa % divisor) % divisor ≠ 0 ∨ divisor ≤ 2 * (mantissa % divisor) ↔
      mantissa % divisor ≠ 0 := by
    constructor
    · rintro (h | h) hz <;> simp [hz] at h
      omega
    · intro hz
      by_cases hle : divisor ≤ 2 * (mantissa % divisor)
      · exact .inr hle
      · left
        rw [Nat.mod_eq_of_lt (by omega)]
        omega
  constructor
  · simp [ExtendedMantissa.shiftRightOne, h.quotient, Nat.div_div_eq_div_mul]
  · simp only [ExtendedMantissa.shiftRightOne, h.quotient, split]
    rcases parity with p | p <;> simp [p] <;> omega
  · simp only [ExtendedMantissa.shiftRightOne, h.roundBit, h.stickyBit, split]
    have double : 2 * (mantissa % divisor + divisor * (mantissa / divisor % 2)) % (divisor * 2) =
        2 * (mantissa % divisor) := by
      rcases parity with p | p
      · rw [p, Nat.mod_eq_of_lt (by omega)]; omega
      · rw [p, show 2 * (mantissa % divisor + divisor * 1) =
          2 * (mantissa % divisor) + divisor * 2 by omega, Nat.add_mod_right,
          Nat.mod_eq_of_lt (by omega)]
    rw [double, ← Bool.decide_or, decide_eq_decide, or_comm, dropped]
    omega

theorem shifted_repeat (mantissa steps : Nat) :
    Shifted mantissa (pow2 steps) (ExtendedMantissa.mk mantissa false false >>> steps) := by
  induction steps with
  | zero => exact shifted_exact mantissa
  | succ steps ih => exact shifted_one (Nat.two_pow_pos steps) ih

theorem roundedMantissa_eq (em : ExtendedMantissa) :
    em.roundedMantissa =
      if em.roundBit then em.mantissa + (if em.stickyBit then 1 else em.mantissa % 2)
      else em.mantissa := by
  obtain ⟨m, round, sticky⟩ := em
  cases round <;> cases sticky <;> rfl

theorem Shifted.rounded {mantissa divisor : Nat} {em : ExtendedMantissa} (positive : 0 < divisor)
    (h : Shifted mantissa divisor em) :
    em.roundedMantissa = Single.nearestEven mantissa divisor := by
  have bound : mantissa % divisor < divisor := Nat.mod_lt _ positive
  rw [roundedMantissa_eq, h.quotient, h.roundBit, h.stickyBit, Single.nearestEven]
  by_cases below : 2 * (mantissa % divisor) < divisor
  · simp [below, Nat.not_le.mpr below]
  · have rest : 2 * (mantissa % divisor) % divisor = 2 * (mantissa % divisor) - divisor := by
      rw [Nat.mod_eq_sub_mod (by omega), Nat.mod_eq_of_lt (by omega)]
    by_cases tie : 2 * (mantissa % divisor) ≤ divisor
    · simp [below, Nat.not_lt.mpr tie, Nat.not_lt.mp below, rest, Nat.sub_eq_zero_of_le tie]
    · simp [below, Nat.not_le.mp tie, Nat.not_lt.mp below, rest,
        Nat.sub_ne_zero_of_lt (Nat.not_le.mp tie)]

theorem shiftToTarget_eq {m : Nat} {e : Int} (steps : Nat)
    (target : max (m.log2 + e - 52) (-1074) = e + steps) :
    shiftToTargetExponent .binary64 m e .exact =
      (ExtendedMantissa.mk m false false >>> steps, e + steps) := by
  have amount : (Format.binary64.targetExponent (totalExponent m e) - e).toNat = steps := by
    simp only [Format.targetExponent, totalExponent, Format.mantissaBits, Format.minExponent]
    omega
  simp only [shiftToTargetExponent, shiftToExponent, amount]
  rfl

/-- The number `r * 2 ^ e`, with a mantissa of 53 bits. -/
def Normal (sign : Sign) (r : Nat) (e : Int) (u : UnpackedFloat) : Prop :=
  ∃ (m : Nat) (k : Int) (positive : 0 < m), u = .finite sign m k positive ∧
    pow2 52 ≤ m ∧ m < pow2 53 ∧ e ≤ k ∧ k ≤ e + 1 ∧ m * pow2 (k - e).toNat = r

theorem log2_bounds {m : Nat} (h : 52 ≤ m.log2) :
    pow2 52 ≤ m / pow2 (m.log2 - 52) ∧ m / pow2 (m.log2 - 52) < pow2 53 := by
  have nonzero : m ≠ 0 := by rintro rfl; simp at h
  have total : pow2 52 * pow2 (m.log2 - 52) = pow2 m.log2 := by
    rw [← pow2_add, Nat.add_sub_cancel' h]
  constructor
  · rw [Nat.le_div_iff_mul_le (pow2_pos _), total]
    exact pow2_log2_le nonzero
  · rw [Nat.div_lt_iff_lt_mul (pow2_pos _), show pow2 53 = pow2 52 * 2 from rfl,
      Nat.mul_right_comm, total]
    exact lt_pow2_log2 m

theorem roundWithAccuracy_of_shifts {sign : Sign} {m : Nat} {e e₁ e₂ : Int}
    {em₁ em₂ : ExtendedMantissa}
    (first : shiftToTargetExponent .binary64 m e .exact = (em₁, e₁))
    (second : shiftToTargetExponent .binary64 em₁.roundedMantissa e₁ .exact = (em₂, e₂))
    (positive : 0 < em₂.mantissa) :
    roundWithAccuracy .binary64 sign m e .exact = .finite sign em₂.mantissa e₂ positive := by
  simp [roundWithAccuracy, first, second, Nat.ne_of_gt positive]

theorem roundWithAccuracy_normal (sign : Sign) {m : Nat} {e : Int} (wide : 52 ≤ m.log2)
    (large : -1022 ≤ m.log2 + e) :
    Normal sign (Single.nearestEven m (pow2 (m.log2 - 52))) (e + (m.log2 - 52 : Nat))
      (roundWithAccuracy .binary64 sign m e .exact) := by
  have bounds := log2_bounds wide
  have near := Single.nearestEven_bounds m (pow2 (m.log2 - 52))
  have rounded := (shifted_repeat m (m.log2 - 52)).rounded (pow2_pos _)
  have first := shiftToTarget_eq (m := m) (e := e) (m.log2 - 52) (by omega)
  generalize Single.nearestEven m (pow2 (m.log2 - 52)) = r at *
  have p52 : pow2 52 = 4503599627370496 := rfl
  have p53 : pow2 53 = 9007199254740992 := rfl
  by_cases carry : r = pow2 53
  · have log : r.log2 = 53 := log2_eq (by omega) (by rw [carry]; decide)
    have second := shiftToTarget_eq (m := r) (e := e + (m.log2 - 52 : Nat)) 1 (by omega)
    have half : (ExtendedMantissa.mk r false false >>> 1).mantissa = pow2 52 := by
      rw [carry]; rfl
    rw [← rounded] at second
    rw [roundWithAccuracy_of_shifts first second (by rw [rounded, half]; decide)]
    refine ⟨_, _, _, rfl, ?_⟩
    rw [rounded, half, carry]
    refine ⟨Nat.le_refl _, by decide, by omega, by omega, ?_⟩
    rw [show (e + (m.log2 - 52 : Nat) + (1 : Nat) - (e + (m.log2 - 52 : Nat))).toNat = 1 by omega]
    rfl
  · have log : r.log2 = 52 := log2_eq (by omega) (show r < pow2 53 by omega)
    have second := shiftToTarget_eq (m := r) (e := e + (m.log2 - 52 : Nat)) 0 (by omega)
    have same : (ExtendedMantissa.mk r false false >>> 0).mantissa = r := rfl
    rw [← rounded] at second
    rw [roundWithAccuracy_of_shifts first second (by rw [rounded, same]; omega)]
    refine ⟨_, _, _, rfl, ?_⟩
    rw [rounded, same]
    refine ⟨by omega, by omega, by omega, by omega, ?_⟩
    rw [show (e + (m.log2 - 52 : Nat) + (0 : Nat) - (e + (m.log2 - 52 : Nat))).toNat = 0 by omega]
    exact Nat.mul_one r

end Binary64

end MemoryBank
