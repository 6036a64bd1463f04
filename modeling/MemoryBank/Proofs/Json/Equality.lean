import MemoryBank.Filter.Condition
import MemoryBank.Proofs.Json.Objects
import MemoryBank.Proofs.Number.Doubles

set_option autoImplicit false

/-!
Equality of values. Every well-formed value equals itself, equality of well-formed values does not
depend on their order, and a value that lies deeper than another is never equal to it.
-/

namespace MemoryBank

theorem Number.Valid.natAbs_lt {n : Int} (valid : (Number.int n).Valid) : n.natAbs < pow2 64 := by
  have p64 : pow2 64 = 18446744073709551616 := rfl
  simp only [Number.Valid, Number.inRange, Word.half64, Word.bound64, Bool.and_eq_true,
    decide_eq_true_eq] at valid
  omega

theorem Number.toFloat_beq_self {n : Number} (valid : n.Valid) :
    (n.toFloat == n.toFloat) = true := by
  cases n with
  | int n => simp [Number.toFloat, Binary64.ofInt_beq valid.natAbs_lt valid.natAbs_lt]
  | float x => exact Binary64.beq_self_of_finite valid

theorem Number.same_comm (m n : Number) : m.same n = n.same m := by
  cases m <;> cases n <;> simp [Number.same, BEq.comm]

namespace Json

theorem wellFormed_of_mem {items : List Json} (valid : WellFormedList items) {v : Json}
    (member : v ∈ items) : v.WellFormed := by
  induction items with
  | nil => cases member
  | cons first rest ih =>
    rcases List.mem_cons.mp member with rfl | member
    · exact valid.1
    · exact ih valid.2 member

mutual

def depth : Json → Nat
  | .array items => depthList items + 1
  | .object entries => depthEntries entries + 1
  | _ => 0

def depthList : List Json → Nat
  | [] => 0
  | v :: rest => max (depth v) (depthList rest)

def depthEntries : List (String × Json) → Nat
  | [] => 0
  | (_, v) :: rest => max (depth v) (depthEntries rest)

end

theorem depth_le_of_get? {o : Object} {key : String} {v : Json} (h : o.get? key = some v) :
    depth v ≤ depthEntries o := by
  induction o with
  | nil => simp at h
  | cons e rest ih =>
    obtain ⟨k, w⟩ := e
    rw [Object.get?_cons] at h
    simp only [depthEntries]
    split at h
    · obtain rfl := Option.some.inj h
      omega
    · have := ih h
      omega

theorem depth_le_of_mem {items : List Json} {v : Json} (h : v ∈ items) :
    depth v ≤ depthList items := by
  induction items with
  | nil => simp at h
  | cons w rest ih =>
    simp only [depthList]
    rcases List.mem_cons.mp h with rfl | h
    · omega
    · have := ih h
      omega

mutual

theorem depth_le_of_same (a b : Json) (h : same a b = true) : depth a ≤ depth b := by
  cases a with
  | null | bool _ | number _ | string _ => simp [depth]
  | array xs =>
    cases b <;> simp only [same, Bool.false_eq_true] at h
    simp only [depth]
    have := depthList_le_of_same xs _ h
    omega
  | object xs =>
    cases b <;> simp only [same, Bool.false_eq_true, Bool.and_eq_true] at h
    simp only [depth]
    have := depthEntries_le_of_same xs _ h.2
    omega

theorem depthList_le_of_same (xs ys : List Json) (h : sameList xs ys = true) :
    depthList xs ≤ depthList ys := by
  cases xs with
  | nil => simp [depthList]
  | cons x xs =>
    cases ys with
    | nil => simp [sameList] at h
    | cons y ys =>
      simp only [sameList, Bool.and_eq_true] at h
      simp only [depthList]
      have := depth_le_of_same x y h.1
      have := depthList_le_of_same xs ys h.2
      omega

theorem depthEntries_le_of_same (xs : List (String × Json)) (o : Object)
    (h : sameEntries xs o = true) : depthEntries xs ≤ depthEntries o := by
  match xs with
  | [] => simp [depthEntries]
  | (k, v) :: xs =>
    simp only [sameEntries, Bool.and_eq_true] at h
    simp only [depthEntries]
    have rest := depthEntries_le_of_same xs o h.2
    cases found : Object.get? o k with
    | none => simp [found] at h
    | some w =>
      rw [found] at h
      have := depth_le_of_same v w h.1
      have := depth_le_of_get? found
      omega

end

-- equal values are equally deep, but one direction is all that is needed to keep them apart
theorem same_eq_false_of_depth {a b : Json} (h : depth b < depth a) : same a b = false := by
  rw [Bool.eq_false_iff]
  intro equal
  have := depth_le_of_same a b equal
  omega

mutual

theorem same_refl (v : Json) (valid : WellFormed v) : same v v = true := by
  cases v with
  | null => rfl
  | bool _ | string _ => simp [same]
  | number n =>
    cases n with
    | int n => simp [same, Number.same]
    | float x => exact Binary64.beq_self_of_finite valid
  | array items => exact sameList_refl items valid
  | object entries =>
    simp only [same, beq_self_eq_true, Bool.true_and]
    exact sameEntries_refl entries entries valid.2 fun k v h => Object.get?_of_mem valid.1 h

theorem sameList_refl (items : List Json) (valid : WellFormedList items) :
    sameList items items = true := by
  match items with
  | [] => rfl
  | v :: rest => simp [sameList, same_refl v valid.1, sameList_refl rest valid.2]

-- the entries are looked up in the whole object, so it stays fixed while they are worked off
theorem sameEntries_refl (entries : List (String × Json)) (o : Object)
    (valid : WellFormedEntries entries) (found : ∀ k v, (k, v) ∈ entries → o.get? k = some v) :
    sameEntries entries o = true := by
  match entries with
  | [] => rfl
  | (k, v) :: rest =>
    simp only [sameEntries, found k v List.mem_cons_self, same_refl v valid.1, Bool.true_and]
    exact sameEntries_refl rest o valid.2 fun k v h => found k v (List.mem_cons_of_mem _ h)

end

theorem sameEntries_of_each {entries : List (String × Json)} {o : Object}
    (each : ∀ k v, (k, v) ∈ entries → ∃ w, o.get? k = some w ∧ same v w = true) :
    sameEntries entries o = true := by
  induction entries with
  | nil => rfl
  | cons e rest ih =>
    obtain ⟨k, v⟩ := e
    obtain ⟨w, found, equal⟩ := each k v List.mem_cons_self
    simp only [sameEntries, found, equal, Bool.true_and]
    exact ih fun k v member => each k v (List.mem_cons_of_mem _ member)

mutual

theorem same_symm (a b : Json) (ha : WellFormed a) (hb : WellFormed b) (h : same a b = true) :
    same b a = true := by
  cases a with
  | null => cases b <;> simp_all [same]
  | bool _ | string _ =>
    cases b <;> simp only [same, Bool.false_eq_true, beq_iff_eq] at h ⊢
    exact h.symm
  | number m =>
    cases b <;> simp only [same, Bool.false_eq_true] at h ⊢
    rw [Number.same_comm, h]
  | array xs =>
    cases b <;> simp only [same, Bool.false_eq_true] at h ⊢
    exact sameList_symm xs _ ha hb h
  | object xs =>
    cases b with
    | object ys =>
      simp only [same, Bool.and_eq_true, beq_iff_eq] at h ⊢
      refine ⟨h.1.symm, sameEntries_of_each fun k w member => ?_⟩
      have back := sameEntries_symm xs ys ha.2 hb h.2
      -- as many keys, all of them keys of the other, are the same keys
      have among : Object.keys xs ⊆ Object.keys ys := by
        intro key known
        obtain ⟨e, entry, rfl⟩ := List.mem_map.mp known
        obtain ⟨v, found, -⟩ := back e.1 e.2 entry
        exact Object.mem_keys (Object.mem_of_get? found)
      have keys : (Object.keys xs).Perm (Object.keys ys) :=
        (List.subperm_of_subset ha.1 among).perm_of_length_le (by simp [Object.keys, h.1])
      obtain ⟨e, entry, rfl⟩ := List.mem_map.mp (keys.mem_iff.mpr (Object.mem_keys member))
      obtain ⟨v, found, equal⟩ := back e.1 e.2 entry
      obtain rfl := Option.some.inj ((Object.get?_of_mem hb.1 member).symm.trans found)
      exact ⟨e.2, Object.get?_of_mem ha.1 entry, equal⟩
    | _ => simp [same] at h

theorem sameList_symm (xs ys : List Json) (hx : WellFormedList xs) (hy : WellFormedList ys)
    (h : sameList xs ys = true) : sameList ys xs = true := by
  match xs, ys with
  | [], [] => rfl
  | x :: xs, y :: ys =>
    simp only [sameList, Bool.and_eq_true] at h ⊢
    exact ⟨same_symm x y hx.1 hy.1 h.1, sameList_symm xs ys hx.2 hy.2 h.2⟩
  | [], _ :: _ | _ :: _, [] => simp [sameList] at h

theorem sameEntries_symm (xs : List (String × Json)) (o : Object) (hx : WellFormedEntries xs)
    (ho : (object o).WellFormed) (h : sameEntries xs o = true) :
    ∀ k v, (k, v) ∈ xs → ∃ w, o.get? k = some w ∧ same w v = true := by
  match xs with
  | [] => intro _ _ none; cases none
  | (k, v) :: rest =>
    simp only [sameEntries, Bool.and_eq_true] at h
    intro key value member
    rcases List.mem_cons.mp member with here | behind
    · obtain ⟨rfl, rfl⟩ := Prod.mk.inj here
      cases found : o.get? key with
      | none => simp [found] at h
      | some w =>
        rw [found] at h
        exact ⟨w, rfl, same_symm value w hx.1 (Object.wellFormed_of_get? ho.2 found) h.1⟩
    · exact sameEntries_symm rest o hx.2 ho h.2 key value behind

end

theorem same_comm {a b : Json} (ha : a.WellFormed) (hb : b.WellFormed) : same a b = same b a :=
  Bool.eq_iff_iff.mpr ⟨same_symm a b ha hb, same_symm b a hb ha⟩

theorem eq_of_same_string {v : Json} {text : String} (h : same v (.string text) = true) :
    v = .string text := by
  cases v with
  | string other => rw [beq_iff_eq.mp (show (other == text) = true from h)]
  | null | bool _ | number _ | array _ | object _ => cases h

theorem exists_same_of_get? {o : Object} {entries : List (String × Json)}
    (equal : sameEntries entries o = true) {key : String} {v : Json}
    (entry : Object.get? entries key = some v) : ∃ w, o.get? key = some w ∧ same v w = true := by
  induction entries with
  | nil => cases entry
  | cons e rest ih =>
    obtain ⟨k, first⟩ := e
    rw [sameEntries, Bool.and_eq_true] at equal
    rw [Object.get?_cons] at entry
    split at entry
    · next here =>
      obtain rfl := Option.some.inj entry
      obtain rfl := here
      cases found : o.get? k with
      | none =>
        rw [found] at equal
        cases equal.1
      | some w =>
        rw [found] at equal
        exact ⟨w, rfl, equal.1⟩
    · exact ih equal.2 entry

theorem equalValue_refl {v : Json} (valid : v.WellFormed) : v.equalValue v = true := by
  cases v with
  | number n => exact Number.toFloat_beq_self valid
  | null | bool _ | string _ | array _ | object _ => exact same_refl _ valid

theorem equalValue_comm {a b : Json} (ha : a.WellFormed) (hb : b.WellFormed) :
    a.equalValue b = b.equalValue a := by
  cases a with
  | number m =>
    cases b with
    | number n => exact BEq.comm
    | _ => rfl
  | _ => cases b <;> exact same_comm ha hb

theorem equalValue_eq_false_of_depth {a b : Json} (h : depth b < depth a) :
    a.equalValue b = false := by
  cases a with
  | array _ | object _ => exact same_eq_false_of_depth h
  | null | bool _ | number _ | string _ => simp [depth] at h

end Json

theorem matchesValue_refl {v : Json} (valid : v.WellFormed) : matchesValue (some v) v = true := by
  cases v with
  | null => rfl
  | array items => simp [matchesValue, Json.equalValue_refl valid]
  | bool _ | number _ | string _ | object _ => exact Json.equalValue_refl valid

theorem matchesValue_object {o : Object} {expected : Json}
    (deep : expected.depth < (Json.object o).depth) :
    matchesValue (some (.object o)) expected = false :=
  Json.equalValue_eq_false_of_depth deep

theorem any_matchesValue_object {o : Object} {options : List Json}
    (deep : (Json.array options).depth ≤ (Json.object o).depth) :
    options.any (matchesValue (some (.object o))) = false := by
  rw [List.any_eq_false]
  intro v member
  have bound := Json.depth_le_of_mem member
  rw [matchesValue_object (by simp only [Json.depth] at deep ⊢; omega)]
  simp

end MemoryBank
