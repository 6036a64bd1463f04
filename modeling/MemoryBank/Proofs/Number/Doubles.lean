import MemoryBank.Proofs.Number.Rounding

set_option autoImplicit false

/-!
The doubles that stand for integers. Main statements: integers compare as doubles the way their
nearest values do (`ofInt_beq`, `ofInt_lt`), and taking the nearest value keeps the order.
-/

namespace MemoryBank.Binary64

open Float.Model Float.Model.UnpackedFloat

/-- Finite, and written with the only mantissa and exponent its bits can hold. -/
inductive Canonical : UnpackedFloat → Prop
  | zero (s : Sign) : Canonical (.zero s)
  | finite (s : Sign) {m : Nat} {k : Int} (positive : 0 < m) (bound : m < pow2 53)
      (least : -1074 ≤ k) (full : pow2 52 ≤ m ∨ k = -1074) : Canonical (.finite s m k positive)

/-- The value, in units of the least positive double. -/
def units : UnpackedFloat → Int
  | .finite s m k _ => s.apply (m * pow2 (k + 1074).toNat : Nat)
  | _ => 0

theorem compare_magnitudes {m₁ m₂ : Nat} {k₁ k₂ : Int}
    (bound₁ : m₁ < pow2 53) (bound₂ : m₂ < pow2 53) (least₁ : -1074 ≤ k₁) (least₂ : -1074 ≤ k₂)
    (full₁ : pow2 52 ≤ m₁ ∨ k₁ = -1074) (full₂ : pow2 52 ≤ m₂ ∨ k₂ = -1074) :
    (compare k₁ k₂).then (compare m₁ m₂) =
      compare (m₁ * pow2 (k₁ + 1074).toNat) (m₂ * pow2 (k₂ + 1074).toNat) := by
  have below {m m' : Nat} {k k' : Int} (bound : m < pow2 53) (least : -1074 ≤ k)
      (full : pow2 52 ≤ m' ∨ k' = -1074) (less : k < k') :
      m * pow2 (k + 1074).toNat < m' * pow2 (k' + 1074).toNat := by
    calc m * pow2 (k + 1074).toNat
        < pow2 53 * pow2 (k + 1074).toNat := Nat.mul_lt_mul_of_pos_right bound (pow2_pos _)
      _ = pow2 52 * pow2 ((k + 1074).toNat + 1) := by
        rw [← pow2_add, ← pow2_add]; congr 1; omega
      _ ≤ pow2 52 * pow2 (k' + 1074).toNat := Nat.mul_le_mul_left _ (pow2_le (by omega))
      _ ≤ m' * pow2 (k' + 1074).toNat := Nat.mul_le_mul_right _ (by omega)
  rcases Int.lt_trichotomy k₁ k₂ with less | rfl | greater
  · rw [Int.compare_eq_lt.mpr less, Nat.compare_eq_lt.mpr (below bound₁ least₁ full₂ less)]
    rfl
  · rw [Int.compare_eq_eq.mpr rfl, Ordering.eq_then]
    simp only [Nat.compare_eq_ite_lt, Nat.mul_lt_mul_right (pow2_pos _)]
  · rw [Int.compare_eq_gt.mpr greater, Nat.compare_eq_gt.mpr (below bound₂ least₂ full₁ greater)]
    rfl

theorem compare_canonical {u v : UnpackedFloat} (hu : Canonical u) (hv : Canonical v) :
    u.compare v = some (compare (units u) (units v)) := by
  have casts (m n : Nat) : compare (m : Int) (n : Int) = compare m n := by
    simp only [Int.compare_eq_ite_lt, Nat.compare_eq_ite_lt, Int.ofNat_lt]
  have negs (m n : Nat) : compare (-(m : Int)) (-(n : Int)) = (compare m n).swap := by
    rw [← casts, Int.compare_swap]
    simp only [Int.compare_eq_ite_lt, Int.neg_lt_neg_iff]
  have magnitude {m : Nat} (k : Int) (positive : 0 < m) : 0 < m * pow2 (k + 1074).toNat :=
    Nat.mul_pos positive (pow2_pos _)
  cases hu with
  | zero s =>
    cases hv with
    | zero t => rfl
    | @finite t n k positive =>
      have := magnitude k positive
      cases t <;> simp only [UnpackedFloat.compare, units, Sign.apply, Option.some.injEq]
      · exact (Int.compare_eq_gt.mpr (by omega)).symm
      · exact (Int.compare_eq_lt.mpr (by omega)).symm
  | @finite s m j positive bound least full =>
    have left := magnitude j positive
    cases hv with
    | zero t =>
      cases s <;> simp only [UnpackedFloat.compare, units, Sign.apply, Option.some.injEq]
      · exact (Int.compare_eq_lt.mpr (by omega)).symm
      · exact (Int.compare_eq_gt.mpr (by omega)).symm
    | @finite t n k positive' bound' least' full' =>
      have right := magnitude k positive'
      have order := compare_magnitudes bound bound' least least' full full'
      cases s <;> cases t <;>
        simp only [UnpackedFloat.compare, units, Sign.apply, Option.some.injEq, order, casts, negs]
      · exact (Int.compare_eq_lt.mpr (by omega)).symm
      · exact (Int.compare_eq_gt.mpr (by omega)).symm

theorem unpack_pack (s : Sign) {m : Nat} {k : Int} (positive : 0 < m) (lower : pow2 52 ≤ m)
    (upper : m < pow2 53) (least : -1074 ≤ k) (greatest : k ≤ 971) :
    (Float.Model.pack (.finite s m k positive)).unpack = .finite s m k positive := by
  have p52 : pow2 52 = 4503599627370496 := rfl
  have p53 : pow2 53 = 9007199254740992 := rfl
  have log : m.log2 = 52 := log2_eq lower upper
  obtain ⟨b, biased⟩ : ∃ b : Nat, k + 1075 = b := ⟨(k + 1075).toNat, by omega⟩
  have exponent : (k + (1023 : Nat) + (52 : Nat)).toNat = b := by omega
  have packed : UnpackedFloat.pack .binary64 (.finite s m k positive) =
      packComponents .binary64 s (BitVec.ofNat 11 b) (BitVec.ofNat 52 m) := by
    have bias : Format.binary64.exponentBias = 1023 := rfl
    have width : Format.binary64.mantissaBits = 53 := rfl
    simp only [UnpackedFloat.pack, log, bias, width, exponent]
    rw [if_neg (by omega), if_pos trivial]
  have inner (c : Nat) (h : c < 2048) : (BitVec.ofNat 11 c).toNat = c := Nat.mod_eq_of_lt h
  have notLast : BitVec.ofNat 11 b ≠ -1#11 := by
    intro h
    have := congrArg BitVec.toNat h
    rw [inner b (by omega)] at this
    simp at this
    omega
  have notFirst : BitVec.ofNat 11 b ≠ 0#11 := by
    intro h
    have := congrArg BitVec.toNat h
    rw [inner b (by omega)] at this
    simp at this
    omega
  have mantissa : (1#1 ++ BitVec.ofNat 52 m).toNat = m := by
    rw [BitVec.toNat_append, ← Nat.shiftLeft_add_eq_or_of_lt (BitVec.ofNat 52 m).isLt,
      Nat.shiftLeft_eq, BitVec.toNat_ofNat]
    simp
    omega
  change UnpackedFloat.unpack .binary64 (UnpackedFloat.pack .binary64 _) = _
  rw [packed]
  simp only [UnpackedFloat.unpack, unpackMantissa_packComponents, unpackExponent_packComponents,
    unpackSign_packComponents, Sign.ofBitVec_toBitVec, if_neg notLast, if_neg notFirst, mantissa,
    inner b (by omega)]
  congr 1
  change (b : Int) - ((1023 : Nat) + (52 : Nat)) = k
  omega

theorem Normal.exact {sign : Sign} {r : Nat} {e : Int} {u : UnpackedFloat} (h : Normal sign r e u)
    (bound : r < pow2 53) : ∃ positive : 0 < r, u = .finite sign r e positive := by
  obtain ⟨m, k, positive, rfl, lower, upper, least, greatest, value⟩ := h
  have p52 : pow2 52 = 4503599627370496 := rfl
  have p53 : pow2 53 = 9007199254740992 := rfl
  rcases (show k = e ∨ k = e + 1 by omega) with rfl | rfl
  · rw [Int.sub_self] at value
    obtain rfl : m = r := by rw [← value]; exact (Nat.mul_one m).symm
    exact ⟨positive, rfl⟩
  · rw [show (e + 1 - e).toNat = 1 by omega, show pow2 1 = 2 from rfl] at value
    omega

theorem Normal.pack_unpack {sign : Sign} {r : Nat} {e : Int} {u : UnpackedFloat}
    (h : Normal sign r e u) (least : -1074 ≤ e) (greatest : e ≤ 970) :
    (Float.Model.pack u).unpack = u := by
  obtain ⟨m, k, positive, rfl, lower, upper, low, high, -⟩ := h
  exact unpack_pack sign positive lower upper (by omega) (by omega)

/-- The natural number of 53 bits and zeros that is nearest, of two the one with an even
mantissa. -/
def nearestNat (n : Nat) : Nat :=
  Single.nearestEven n (pow2 (n.log2 - 52)) * pow2 (n.log2 - 52)

/-- The integer that a double holds in the place of `n`. -/
def nearest : Int → Int
  | .ofNat n => nearestNat n
  | .negSucc n => -nearestNat (n + 1)

theorem nearestNat_of_lt {n : Nat} (h : n < pow2 53) : nearestNat n = n := by
  have small : n.log2 - 52 = 0 := by
    by_cases zero : n = 0
    · simp [zero]
    · have : n.log2 < 53 := (Nat.log2_lt zero).mpr h
      omega
  rw [nearestNat, small, show pow2 0 = 1 from rfl, Single.nearestEven_one, Nat.mul_one]

theorem nearestNat_bounds {n : Nat} (positive : 0 < n) :
    pow2 n.log2 ≤ nearestNat n ∧ nearestNat n ≤ pow2 (n.log2 + 1) := by
  by_cases wide : 52 ≤ n.log2
  · have bounds := log2_bounds wide
    have near := Single.nearestEven_bounds n (pow2 (n.log2 - 52))
    constructor
    · calc pow2 n.log2 = pow2 52 * pow2 (n.log2 - 52) := by rw [← pow2_add]; congr 1; omega
        _ ≤ nearestNat n := Nat.mul_le_mul_right _ (by omega)
    · calc nearestNat n ≤ pow2 53 * pow2 (n.log2 - 52) := Nat.mul_le_mul_right _ (by omega)
        _ = pow2 (n.log2 + 1) := by rw [← pow2_add]; congr 1; omega
  · have small : n < pow2 53 := (Nat.log2_lt (by omega)).mp (by omega)
    rw [nearestNat_of_lt small]
    exact ⟨pow2_log2_le (by omega), Nat.le_of_lt (lt_pow2_log2 n)⟩

theorem nearestNat_mono {m n : Nat} (h : m ≤ n) : nearestNat m ≤ nearestNat n := by
  by_cases zero : m = 0
  · rw [zero, nearestNat_of_lt (pow2_pos 53)]
    exact Nat.zero_le _
  have logs : m.log2 ≤ n.log2 :=
    (Nat.le_log2 (by omega)).mpr (Nat.le_trans (pow2_log2_le zero) h)
  by_cases same : m.log2 = n.log2
  · unfold nearestNat
    rw [same]
    exact Nat.mul_le_mul_right _ (Single.nearestEven_mono _ h)
  · calc nearestNat m ≤ pow2 (m.log2 + 1) := (nearestNat_bounds (by omega)).2
      _ ≤ pow2 n.log2 := pow2_le (by omega)
      _ ≤ nearestNat n := (nearestNat_bounds (by omega)).1

theorem nearest_mono {a b : Int} (h : a ≤ b) : nearest a ≤ nearest b := by
  cases a with
  | ofNat m =>
    cases b with
    | ofNat n => exact Int.ofNat_le.mpr (nearestNat_mono (Int.ofNat_le.mp h))
    | negSucc n =>
      have := Int.negSucc_lt_zero n
      have : Int.ofNat m = (m : Int) := rfl
      omega
  | negSucc m =>
    cases b with
    | ofNat n => simp only [nearest]; omega
    | negSucc n =>
      have := nearestNat_mono (show n + 1 ≤ m + 1 by omega)
      simp only [nearest]
      omega

theorem nearest_of_natAbs_lt {n : Int} (h : n.natAbs < pow2 53) : nearest n = n := by
  cases n with
  | ofNat n => simp only [nearest, nearestNat_of_lt (show n < pow2 53 from h)]; rfl
  | negSucc n => simp only [nearest, nearestNat_of_lt (show n + 1 < pow2 53 from h)]; rfl

theorem ofUInt64_normal {n : Nat} (positive : 0 < n) (bound : n < pow2 53) :
    Normal .positive (n * pow2 (52 - n.log2)) (n.log2 - 52)
      (UnpackedFloat.ofNat .binary64 n) := by
  have log : n.log2 < 53 := (Nat.log2_lt (by omega)).mpr bound
  have target : Format.binary64.targetExponent (totalExponent n 0) = n.log2 - 52 := by
    simp only [Format.targetExponent, totalExponent, Format.mantissaBits, Format.minExponent]
    omega
  have wide : (n * pow2 (52 - n.log2)).log2 = 52 := by
    rw [log2_mul_pow2 positive]; omega
  have rounded := roundWithAccuracy_normal .positive (m := n * pow2 (52 - n.log2))
    (e := (n.log2 : Int) - 52) (by omega) (by omega)
  rw [wide, show 52 - 52 = 0 from rfl, show pow2 0 = 1 from rfl, Single.nearestEven_one] at rounded
  have shape : UnpackedFloat.ofNat .binary64 n =
      roundWithAccuracy .binary64 .positive (n * pow2 (52 - n.log2)) (n.log2 - 52) .exact := by
    simp only [UnpackedFloat.ofNat, UnpackedFloat.ofInt, UnpackedFloat.normalize,
      Int.compare_eq_gt.mpr (show (0 : Int) < n by omega), UnpackedFloat.round, target,
      decreaseExponent, Int.toNat_natCast]
    rw [show (0 - ((n.log2 : Int) - 52)).toNat = 52 - n.log2 by omega, Nat.shiftLeft_eq,
      show (0 : Int) - (52 - n.log2 : Nat) = n.log2 - 52 by omega]
    rfl
  rw [shape]
  simpa using rounded

theorem unpack_one :
    (Float.ofBits 0x3FF0000000000000).toModel.unpack =
      .finite .positive (pow2 52) (-52) (pow2_pos 52) := rfl

theorem unpack_mul {a b : Float} {m₁ m₂ : Nat} {k₁ k₂ : Int} {positive₁ : 0 < m₁}
    {positive₂ : 0 < m₂} (ha : a.toModel.unpack = .finite .positive m₁ k₁ positive₁)
    (hb : b.toModel.unpack = .finite .positive m₂ k₂ positive₂) :
    (a * b).toModel.unpack =
      (Float.Model.pack
        (roundWithAccuracy .binary64 .positive (m₁ * m₂) (k₁ + k₂) .exact)).unpack := by
  change
    (Float.Model.pack (UnpackedFloat.mul .binary64 a.toModel.unpack b.toModel.unpack)).unpack = _
  rw [ha, hb]
  rfl

theorem ofNat_small {n : Nat} (positive : 0 < n) (bound : n < pow2 53) :
    Normal .positive (n * pow2 (52 - n.log2)) (n.log2 - 52) (Float.ofNat n).toModel.unpack := by
  have log : n.log2 < 53 := (Nat.log2_lt (by omega)).mpr bound
  have wide : (n * pow2 (52 - n.log2)).log2 = 52 := by
    rw [log2_mul_pow2 positive]; omega
  have size : n * pow2 (52 - n.log2) < pow2 53 := by
    have := lt_pow2_log2 (n * pow2 (52 - n.log2))
    rwa [wide] at this
  have p53 : pow2 53 = 9007199254740992 := rfl
  obtain ⟨big, start⟩ := (ofUInt64_normal positive bound).exact size
  have word : n.toUInt64.toNat = n := by
    change n % 18446744073709551616 = n
    omega
  have first : n.toUInt64.toFloat.toModel.unpack =
      .finite .positive (n * pow2 (52 - n.log2)) (n.log2 - 52) big := by
    change (Float.Model.pack (UnpackedFloat.ofNat .binary64 n.toUInt64.toNat)).unpack = _
    have packed := (ofUInt64_normal positive bound).pack_unpack (by omega) (by omega)
    rw [word, packed, start]
  have product : Float.ofNat n = n.toUInt64.toFloat * Float.ofBits 0x3FF0000000000000 := by
    change Float.ofScientific n false 0 = _
    rw [Float.ofScientific, dif_pos ⟨by omega, by decide⟩]
    rfl
  have rounded := roundWithAccuracy_normal .positive
    (m := n * pow2 (52 - n.log2) * pow2 52) (e := (n.log2 : Int) - 52 + -52)
    (by rw [log2_mul_pow2 big]; omega) (by rw [log2_mul_pow2 big]; omega)
  have again := Single.nearestEven_mul_right (n * pow2 (52 - n.log2)) 1 (pow2_pos 52)
  rw [Nat.one_mul, Single.nearestEven_one] at again
  rw [log2_mul_pow2 big, wide, Nat.add_sub_cancel, again,
    show (n.log2 : Int) - 52 + -52 + (52 : Nat) = n.log2 - 52 by omega] at rounded
  rw [product, unpack_mul first unpack_one, rounded.pack_unpack (by omega) (by omega)]
  exact rounded

theorem ofNat_large {n : Nat} (large : pow2 53 ≤ n) (bound : n < pow2 64) :
    Normal .positive (Single.nearestEven n (pow2 (n.log2 - 52))) (n.log2 - 52)
      (Float.ofNat n).toModel.unpack := by
  have p53 : pow2 53 = 9007199254740992 := rfl
  have positive : 0 < n := by omega
  have least : 53 ≤ n.log2 := (Nat.le_log2 (by omega)).mpr large
  have log : n.log2 < 64 := (Nat.log2_lt (by omega)).mpr bound
  have rounded := roundWithAccuracy_normal .positive (m := n * pow2 53) (e := -53)
    (by rw [log2_mul_pow2 positive]; omega) (by rw [log2_mul_pow2 positive]; omega)
  rw [log2_mul_pow2 positive, show n.log2 + 53 - 52 = n.log2 - 52 + 53 by omega, pow2_add,
    Single.nearestEven_mul_right _ _ (pow2_pos 53),
    show (-53 : Int) + (n.log2 - 52 + 53 : Nat) = n.log2 - 52 by omega] at rounded
  have shape : (Float.ofNat n).toModel.unpack =
      (Float.Model.pack
        (roundWithAccuracy .binary64 .positive (n * pow2 53) (-53) .exact)).unpack := by
    change (Float.ofScientific n false 0).toModel.unpack = _
    rw [Float.ofScientific, dif_neg (by intro h; have := h.1; omega)]
    change (Float.Model.pack (UnpackedFloat.ofScientific .binary64 n 0)).unpack = _
    have width : (0 : Int) ≤ 2 ^ Format.binary64.exponentBits := by decide
    rw [UnpackedFloat.ofScientific, dif_neg (by omega), if_neg (by decide), if_neg (by omega),
      if_pos (by decide)]
    simp only [UnpackedFloat.mul, Nat.shiftLeft_eq]
    rw [show (10 : Nat) ^ (0 : Int).toNat = 1 from rfl, Nat.mul_one]
    rfl
  rw [shape, rounded.pack_unpack (by omega) (by omega)]
  exact rounded

theorem Normal.canonical {sign : Sign} {r : Nat} {e : Int} {u : UnpackedFloat}
    (h : Normal sign r e u) (least : -1074 ≤ e) : Canonical u := by
  obtain ⟨m, k, positive, rfl, lower, upper, low, -⟩ := h
  exact .finite sign positive upper (by omega) (.inl lower)

theorem Normal.units {sign : Sign} {r : Nat} {e : Int} {u : UnpackedFloat}
    (h : Normal sign r e u) (least : -1074 ≤ e) :
    units u = sign.apply (r * pow2 (e + 1074).toNat : Nat) := by
  obtain ⟨m, k, positive, rfl, -, -, low, -, rfl⟩ := h
  rw [Binary64.units, Nat.mul_assoc, ← pow2_add,
    show (k - e).toNat + (e + 1074).toNat = (k + 1074).toNat by omega]

def unitsOfOne : Nat := pow2 1074

theorem ofNat_normal {n : Nat} (positive : 0 < n) (bound : n < pow2 64) :
    ∃ r, Normal .positive r (n.log2 - 52) (Float.ofNat n).toModel.unpack ∧
      r * pow2 (n.log2 + 1022) = nearestNat n * unitsOfOne := by
  by_cases small : n < pow2 53
  · refine ⟨_, ofNat_small positive small, ?_⟩
    have log : n.log2 < 53 := (Nat.log2_lt (by omega)).mpr small
    rw [nearestNat_of_lt small, Nat.mul_assoc, ← pow2_add, unitsOfOne,
      show 52 - n.log2 + (n.log2 + 1022) = 1074 by omega]
  · refine ⟨_, ofNat_large (by omega) bound, ?_⟩
    have least : 53 ≤ n.log2 := (Nat.le_log2 (by omega)).mpr (show pow2 53 ≤ n by omega)
    rw [nearestNat, Nat.mul_assoc, unitsOfOne, ← pow2_add,
      show n.log2 - 52 + 1074 = n.log2 + 1022 by omega]

theorem Normal.neg {r : Nat} {e : Int} {u : UnpackedFloat} (h : Normal .positive r e u) :
    Normal .negative r e u.neg := by
  obtain ⟨m, k, positive, rfl, rest⟩ := h
  exact ⟨m, k, positive, rfl, rest⟩

theorem ofInt_units {n : Int} (bound : n.natAbs < pow2 64) :
    Canonical (Float.ofInt n).toModel.unpack ∧
      units (Float.ofInt n).toModel.unpack = nearest n * unitsOfOne := by
  have log {n : Nat} (positive : 0 < n) (bound : n < pow2 64) : n.log2 < 64 :=
    (Nat.log2_lt (by omega)).mpr bound
  match n with
  | .ofNat 0 =>
    have zero : (Float.ofInt (.ofNat 0)).toModel.unpack = .zero .positive := by rfl
    rw [zero]
    refine ⟨.zero _, ?_⟩
    rw [nearest, nearestNat_of_lt (pow2_pos 53)]
    exact (Int.zero_mul _).symm
  | .ofNat (n + 1) =>
    have small := log (Nat.succ_pos n) bound
    obtain ⟨r, normal, value⟩ := ofNat_normal (Nat.succ_pos n) bound
    refine ⟨normal.canonical (by omega), (normal.units (by omega)).trans ?_⟩
    rw [show ((n + 1).log2 - 52 + 1074 : Int).toNat = (n + 1).log2 + 1022 by omega, value]
    exact Int.natCast_mul _ _
  | .negSucc n =>
    have small := log (Nat.succ_pos n) bound
    obtain ⟨r, normal, value⟩ := ofNat_normal (Nat.succ_pos n) bound
    have packed : (Float.ofInt (.negSucc n)).toModel.unpack =
        (Float.ofNat (n + 1)).toModel.unpack.neg := normal.neg.pack_unpack (by omega) (by omega)
    rw [packed]
    refine ⟨normal.neg.canonical (by omega), (normal.neg.units (by omega)).trans ?_⟩
    rw [show ((n + 1).log2 - 52 + 1074 : Int).toNat = (n + 1).log2 + 1022 by omega, value]
    rw [Sign.apply, Int.natCast_mul]
    exact (Int.neg_mul _ _).symm

theorem compare_ofInt {a b : Int} (ha : a.natAbs < pow2 64) (hb : b.natAbs < pow2 64) :
    (Float.ofInt a).toModel.unpack.compare (Float.ofInt b).toModel.unpack =
      some (compare (nearest a) (nearest b)) := by
  rw [compare_canonical (ofInt_units ha).1 (ofInt_units hb).1, (ofInt_units ha).2,
    (ofInt_units hb).2]
  have scale : (0 : Int) < unitsOfOne := Int.ofNat_lt.mpr (pow2_pos 1074)
  simp only [Int.compare_eq_ite_lt, Int.mul_lt_mul_right scale]

theorem ofInt_beq {a b : Int} (ha : a.natAbs < pow2 64) (hb : b.natAbs < pow2 64) :
    (Float.ofInt a == Float.ofInt b) = (nearest a == nearest b) := by
  change ((Float.ofInt a).toModel.unpack.compare (Float.ofInt b).toModel.unpack == some .eq) = _
  rw [compare_ofInt ha hb, Bool.eq_iff_iff]
  simp

theorem ofInt_lt {a b : Int} (ha : a.natAbs < pow2 64) (hb : b.natAbs < pow2 64) :
    Float.ofInt a < Float.ofInt b ↔ nearest a < nearest b := by
  change decide (((Float.ofInt a).toModel.unpack.compare (Float.ofInt b).toModel.unpack ==
    some .lt) = true) = true ↔ _
  rw [compare_ofInt ha hb]
  simp [Int.compare_eq_lt]

theorem unpack_ne_nan {x : Float} (h : finite x = true) : x.toModel.unpack ≠ .notANumber := by
  have exponent : @unpackExponent .binary64 x.toModel.toBits.toBitVec ≠ -1#11 := by
    intro all
    have value : x.toModel.toBits.toNat >>> 52 % 2048 = 2047 := by
      simpa [unpackExponent] using congrArg BitVec.toNat all
    have bits : biasedExponent x = x.toModel.toBits.toNat >>> 52 % 2048 := by
      rw [Nat.shiftRight_eq_div_pow]; rfl
    rw [finite, bits, value] at h
    simp at h
  change UnpackedFloat.unpack .binary64 x.toModel.toBits.toBitVec ≠ _
  unfold UnpackedFloat.unpack
  rw [if_neg exponent]
  split
  · split <;> simp
  · simp

theorem beq_self_of_finite {x : Float} (h : finite x = true) : (x == x) = true := by
  change (x.toModel.unpack.compare x.toModel.unpack == some .eq) = true
  have := unpack_ne_nan h
  cases hu : x.toModel.unpack with
  | notANumber => exact absurd hu this
  | infinity s => cases s <;> rfl
  | zero s => rfl
  | finite s m k positive => 
    cases s <;> simp [UnpackedFloat.compare]

end MemoryBank.Binary64
