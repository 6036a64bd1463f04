import Mathlib
import MemoryBank.Number.Binary64
import MemoryBank.Proofs.Sorting

set_option autoImplicit false

/-!
The order of the doubles, infinities included. Main statement: they compare as their places do, so
that items can be sorted by them. The undefined value, which compares with nothing, is counted as
zero here.
-/

namespace MemoryBank.Binary64

open Float.Model Float.Model.UnpackedFloat

/-- Where a number stands: on which side of zero, then its exponent, then its mantissa. -/
def place : UnpackedFloat → Int ×ₗ Int ×ₗ Int
  | .infinity .negative => toLex (-2, toLex (0, 0))
  | .finite .negative m k _ => toLex (-1, toLex (-k, -m))
  | .zero _ | .notANumber => toLex (0, toLex (0, 0))
  | .finite .positive m k _ => toLex (1, toLex (k, m))
  | .infinity .positive => toLex (2, toLex (0, 0))

theorem compare_eq_lt_iff {u v : UnpackedFloat} (hu : u ≠ .notANumber) (hv : v ≠ .notANumber) :
    u.compare v = some .lt ↔ place u < place v := by
  have signs : compare Sign.negative Sign.positive = .lt := rfl
  have above {j k : Int} {m n : Nat} :
      (compare j k).then (compare m n) = .lt ↔ j < k ∨ j = k ∧ m < n := by
    rw [Ordering.then_eq_lt, Int.compare_eq_lt, Int.compare_eq_eq, Nat.compare_eq_lt]
  have below {j k : Int} {m n : Nat} :
      (compare j k).then (compare m n) = .gt ↔ k < j ∨ j = k ∧ n < m := by
    rw [Ordering.then_eq_gt, Int.compare_eq_gt, Int.compare_eq_eq, Nat.compare_eq_gt]
  rcases u with (_ | _) | _ | s | ⟨_ | _⟩ <;> rcases v with (_ | _) | _ | t | ⟨_ | _⟩ <;>
    simp [UnpackedFloat.compare, place, Prod.Lex.toLex_lt_toLex, signs, above, below] at hu hv ⊢

/-- Whether the one number stands below the other. -/
def below (x y : Float) : Bool := decide (place x.toModel.unpack < place y.toModel.unpack)

theorem unpack_of_isNaN {x : Float} (defined : x.isNaN = false) :
    x.toModel.unpack ≠ .notANumber := by
  intro undefined
  have value : x.isNaN = x.toModel.unpack.isNaN := rfl
  rw [value, undefined] at defined
  cases defined

theorem decide_lt_eq_below {x y : Float} (hx : x.isNaN = false) (hy : y.isNaN = false) :
    decide (x < y) = below x y := by
  refine decide_eq_decide.mpr ?_
  rw [← compare_eq_lt_iff (unpack_of_isNaN hx) (unpack_of_isNaN hy)]
  change decide ((x.toModel.unpack.compare y.toModel.unpack == some .lt) = true) = true ↔ _
  simp

theorem orders_below : Orders below where
  asymm first := decide_eq_false (lt_asymm (of_decide_eq_true first))
  negTrans first second :=
    decide_eq_false (not_lt.mpr (le_trans (not_lt.mp (of_decide_eq_false second))
      (not_lt.mp (of_decide_eq_false first))))

end MemoryBank.Binary64
