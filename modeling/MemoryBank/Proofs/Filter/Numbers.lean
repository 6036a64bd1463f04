import MemoryBank.Proofs.Filter.Conditions
import MemoryBank.Proofs.Json.Equality
import MemoryBank.Proofs.Number.Values

set_option autoImplicit false

/-!
Filters on numbers, which are compared by their doubles. Main statement: a number is met exactly by
the operands with the same double, so that only integers beyond 53 bits are taken for others.
-/

namespace MemoryBank

namespace Number

open Float.Model.UnpackedFloat

variable {a b : Number}

def value : Number → ℚ
  | .int n => n
  | .float x => Binary64.value x

/-- The value of the double that is compared. -/
def rounded : Number → ℚ
  | .int n => Binary64.nearest n
  | .float x => Binary64.value x

theorem unpack_toFloat (valid : a.Valid) :
    Binary64.Canonical a.toFloat.toModel.unpack ∧
      (Binary64.units a.toFloat.toModel.unpack : ℚ) = a.rounded * Binary64.unitsOfOne := by
  cases a with
  | float x => exact ⟨(Binary64.unpack_finite valid).1, Binary64.cast_units valid⟩
  | int n =>
    obtain ⟨canonical, units'⟩ := Binary64.ofInt_units valid.natAbs_lt
    refine ⟨canonical, ?_⟩
    rw [toFloat, units', rounded]
    exact Int.cast_mul _ _

/-- Two numbers compare as equal if their doubles have one value. -/
theorem toFloat_beq (ha : a.Valid) (hb : b.Valid) :
    (a.toFloat == b.toFloat) = true ↔ a.rounded = b.rounded := by
  obtain ⟨left, leftUnits⟩ := unpack_toFloat ha
  obtain ⟨right, rightUnits⟩ := unpack_toFloat hb
  change (a.toFloat.toModel.unpack.compare b.toFloat.toModel.unpack == some .eq) = true ↔ _
  rw [Binary64.compare_canonical left right, beq_iff_eq, Option.some.injEq, Int.compare_eq_eq,
    ← @Int.cast_inj ℚ, leftUnits, rightUnits, mul_left_inj' Binary64.unitsOfOne_pos.ne']

theorem rounded_of_value (ha : a.Valid) (hb : b.Valid) (same : a.value = b.value) :
    a.rounded = b.rounded := by
  cases a with
  | int m =>
    cases b with
    | int n => rw [Int.cast_inj.mp (show (m : ℚ) = n from same)]
    | float y =>
      have own := Binary64.nearest_of_value hb same.symm
      rw [rounded, own]
      exact same
  | float x =>
    cases b with
    | int n =>
      have own := Binary64.nearest_of_value ha same
      rw [rounded, rounded, own]
      exact same
    | float y => exact same

theorem exists_large_of_rounded (other : a.rounded ≠ a.value) :
    ∃ n, a = .int n ∧ pow2 53 < n.natAbs := by
  cases a with
  | float x => exact absurd rfl other
  | int n =>
    refine ⟨n, rfl, Nat.lt_of_not_le fun small => other ?_⟩
    rw [rounded, Binary64.nearest_of_natAbs_le small, value]

/-- Within 53 bits a number is met by its own value alone. -/
theorem value_of_rounded (small : |b.value| < pow2 53) (same : a.rounded = b.rounded) :
    a.value = b.value := by
  have own : b.rounded = b.value := by
    by_contra other
    obtain ⟨n, rfl, large⟩ := exists_large_of_rounded other
    rw [value, ← Int.cast_abs, Int.abs_eq_natAbs] at small
    exact absurd (by exact_mod_cast small : n.natAbs < pow2 53) (by omega)
  by_contra apart
  have other : a.rounded ≠ a.value := fun exact => apart (exact.symm.trans (same.trans own))
  obtain ⟨n, rfl, large⟩ := exists_large_of_rounded other
  have far := Binary64.le_natAbs_nearest large.le
  rw [← own, ← same, rounded, ← Int.cast_abs, Int.abs_eq_natAbs] at small
  exact absurd (by exact_mod_cast small : (Binary64.nearest n).natAbs < pow2 53) (by omega)

end Number

def Test.operands : Test → List Json
  | .equals v => [v]
  | .oneOf vs => vs

theorem Test.holds_eq (t : Test) (actual : Option Json) :
    t.holds actual = t.operands.any (matchesValue actual) := by
  cases t with
  | equals v => simp [holds, operands]
  | oneOf vs => rfl

theorem Test.WellFormed.operand {t : Test} (valid : t.WellFormed) {v : Json}
    (operand : v ∈ t.operands) : v.WellFormed := by
  cases t with
  | equals w =>
    obtain rfl := List.mem_singleton.mp operand
    exact valid
  | oneOf vs => exact Json.wellFormed_of_mem valid operand

variable {a b : Number}

theorem Json.equalValue_number_iff (ha : a.Valid) {v : Json} (valid : v.WellFormed) :
    Json.equalValue (.number a) v = true ↔ ∃ b, v = .number b ∧ a.rounded = b.rounded := by
  cases v with
  | number b =>
    rw [equalValue, Number.toFloat_beq ha valid]
    constructor
    · exact fun same => ⟨b, rfl, same⟩
    · rintro ⟨_, ⟨⟩, same⟩
      exact same
  | null | bool _ | string _ | array _ | object _ =>
    refine iff_of_false (by simp [equalValue, BEq.beq, Json.same]) ?_
    rintro ⟨_, ⟨⟩, _⟩

/-- Two numbers are equal for a filter exactly if their doubles are. This is not equality of values
where different values have one double, which takes an integer beyond 53 bits; an operand below is
met by no number of another value. -/
theorem numbers_match_rounded (ha : a.Valid) (hb : b.Valid) :
    (Json.equalValue (.number a) (.number b) = true ↔ a.rounded = b.rounded) ∧
      ((Json.equalValue (.number a) (.number b) = true ↔ a.value = b.value) ↔
        (a.rounded = b.rounded → a.value = b.value)) ∧
      (a.rounded ≠ a.value → ∃ n, a = .int n ∧ pow2 53 < n.natAbs) ∧
      (|b.value| < pow2 53 →
        (Json.equalValue (.number a) (.number b) = true ↔ a.value = b.value)) ∧
      ∀ (field : String) (t : Test) (payload : Object), t.WellFormed →
        payload.get? field = some (.number a) →
          ((Condition.mk field t).holds payload = true ↔
            ∃ c, Json.number c ∈ t.operands ∧ a.rounded = c.rounded) := by
  have rounding : Json.equalValue (.number a) (.number b) = true ↔ a.rounded = b.rounded :=
    Number.toFloat_beq ha hb
  have same := Number.rounded_of_value ha hb
  refine ⟨rounding, ?_, Number.exists_large_of_rounded, fun small => ?_, ?_⟩
  · rw [rounding]
    exact ⟨Iff.mp, fun exact => ⟨exact, same⟩⟩
  · rw [rounding]
    exact ⟨Number.value_of_rounded small, same⟩
  · intro field t payload valid here
    rw [Condition.holds, here, Test.holds_eq, List.any_eq_true]
    constructor
    · rintro ⟨v, operand, met⟩
      obtain ⟨c, rfl, same⟩ := (Json.equalValue_number_iff ha (valid.operand operand)).mp met
      exact ⟨c, operand, same⟩
    · rintro ⟨c, operand, same⟩
      exact ⟨_, operand, (Json.equalValue_number_iff ha (valid.operand operand)).mpr ⟨c, rfl, same⟩⟩

theorem numbers_match_rounded_seven :
    (Number.float 7.0).Valid ∧ (Number.int 7).Valid ∧ |(Number.int 7).value| < pow2 53 ∧
      (Number.float 7.0).value = 7 := by
  have written : Binary64.finite 7.0 = true := rfl
  have whole : (Number.int 7).Valid := rfl
  have small : |(Number.int 7).value| < pow2 53 := by simp [Number.value, pow2]; norm_num
  refine ⟨written, whole, small, ?_⟩
  have rounding := numbers_match_rounded (a := .float 7.0) written whole
  exact (rounding.2.2.2.1 small).mp rfl

/-- The smallest integer above zero that is no double is taken for the one in front of it. -/
theorem integers_taken_for_one :
    (Number.int 9007199254740993).Valid ∧ (Number.int 9007199254740992).Valid ∧
      (Number.int 9007199254740993).value ≠ (Number.int 9007199254740992).value ∧
      Json.equalValue (.ofInt 9007199254740993) (.ofInt 9007199254740992) = true ∧
      (Condition.mk "n" (.equals (.ofInt 9007199254740992))).holds
        [("n", .ofInt 9007199254740993)] = true ∧
      (Condition.mk "n" (.oneOf [.ofInt 9007199254740992])).holds
        [("n", .ofInt 9007199254740993)] = true := by
  refine ⟨rfl, rfl, ?_, rfl, rfl, rfl⟩
  rw [Number.value, Number.value, Ne, Int.cast_inj]
  decide

end MemoryBank
