import MemoryBank.Sorting

set_option autoImplicit false

/-!
What a stable sort leaves behind: no item comes before one that stands in front of it, and to take
items out of the sorted list is to sort what is taken. Items that are all told apart come out in one
order, whatever order they went in.
-/

namespace MemoryBank

variable {α : Type}

/-- A test that items can be sorted by. What is not before a second item, which is not before a
third, is not before the third. -/
structure Orders (before : α → α → Bool) : Prop where
  asymm {a b : α} : before a b = true → before b a = false
  negTrans {a b c : α} : before a b = false → before b c = false → before a c = false

theorem Orders.swap {before : α → α → Bool} (orders : Orders before) :
    Orders fun a b => before b a :=
  ⟨orders.asymm, fun first second => orders.negTrans second first⟩

theorem Orders.comap {β : Type} {before : β → β → Bool} (orders : Orders before) (f : α → β) :
    Orders fun a b => before (f a) (f b) :=
  ⟨orders.asymm, orders.negTrans⟩

/-- What a first test does not tell apart is left to a second. -/
def firstBy (first second : α → α → Bool) (a b : α) : Bool :=
  first a b || (!first b a && second a b)

theorem firstBy_eq_false {first second : α → α → Bool} {a b : α} :
    firstBy first second a b = false ↔
      first a b = false ∧ (first b a = true ∨ second a b = false) := by
  unfold firstBy
  cases first a b <;> cases first b a <;> simp

theorem Orders.firstBy {first second : α → α → Bool} (orders : Orders first)
    (others : Orders second) : Orders (firstBy first second) where
  asymm {a b} before := by
    rw [firstBy_eq_false]
    rw [MemoryBank.firstBy, Bool.or_eq_true, Bool.and_eq_true, Bool.not_eq_true'] at before
    rcases before with ahead | ⟨level, ahead⟩
    · exact ⟨orders.asymm ahead, .inl ahead⟩
    · exact ⟨level, .inr (others.asymm ahead)⟩
  negTrans {a b c} ab bc := by
    rw [firstBy_eq_false] at ab bc ⊢
    refine ⟨orders.negTrans ab.1 bc.1, ?_⟩
    cases behind : first c a with
    | true => exact .inl rfl
    | false =>
      -- none of the three is told apart by the first test
      have ba := orders.negTrans bc.1 behind
      have cb := orders.negTrans behind ab.1
      exact .inr (others.negTrans (ab.2.resolve_left (by simp [ba]))
        (bc.2.resolve_left (by simp [cb])))

theorem placeBack_congr {before before' : α → α → Bool} {a : α} {sorted : List α}
    (agree : ∀ b ∈ sorted, before a b = before' a b) :
    placeBack before a sorted = placeBack before' a sorted := by
  induction sorted with
  | nil => rfl
  | cons b rest ih =>
    rw [List.forall_mem_cons] at agree
    rw [placeBack, placeBack, agree.1, ih agree.2]

theorem stableSort_congr {before before' : α → α → Bool} {items : List α}
    (agree : ∀ a ∈ items, ∀ b ∈ items, before a b = before' a b) :
    stableSort before items = stableSort before' items := by
  -- the items that are placed already are items too
  have general (left sorted : List α) (among : ∀ a ∈ left, a ∈ items)
      (held : ∀ b ∈ sorted, b ∈ items) :
      left.foldl (fun sorted a => placeBack before a sorted) sorted =
        left.foldl (fun sorted a => placeBack before' a sorted) sorted := by
    induction left generalizing sorted with
    | nil => rfl
    | cons a rest ih =>
      rw [List.forall_mem_cons] at among
      rw [List.foldl_cons, List.foldl_cons,
        placeBack_congr fun b member => agree a among.1 b (held b member)]
      refine ih _ among.2 fun b member => ?_
      rcases List.mem_cons.mp ((placeBack_perm before' a sorted).mem_iff.mp member) with
        rfl | member
      · exact among.1
      · exact held b member
  rw [stableSort, stableSort, general items [] (fun _ => id) fun _ none => by cases none]

theorem placeBack_of_none {before : α → α → Bool} {a : α} {sorted : List α}
    (none : ∀ x ∈ sorted, before a x = false) : placeBack before a sorted = a :: sorted := by
  cases sorted with
  | nil => rfl
  | cons b rest =>
    rw [placeBack, none b List.mem_cons_self]
    rfl

section

variable {before : α → α → Bool} (orders : Orders before)
include orders

-- While items are placed the list is held from its back to its front.
theorem placeBack_pairwise (a : α) {sorted : List α}
    (held : sorted.Pairwise fun x y => before x y = false) :
    (placeBack before a sorted).Pairwise fun x y => before x y = false := by
  induction sorted with
  | nil => exact List.pairwise_singleton _ a
  | cons b rest ih =>
    obtain ⟨first, behind⟩ := List.pairwise_cons.mp held
    rw [placeBack]
    cases order : before a b with
    | true =>
      refine List.pairwise_cons.mpr ⟨fun x member => ?_, ih behind⟩
      rcases List.mem_cons.mp ((placeBack_perm before a rest).mem_iff.mp member) with rfl | member
      · exact orders.asymm order
      · exact first x member
    | false =>
      refine List.pairwise_cons.mpr ⟨fun x member => ?_, held⟩
      rcases List.mem_cons.mp member with rfl | member
      · exact order
      · exact orders.negTrans order (first x member)

theorem foldl_placeBack_pairwise (items : List α) {sorted : List α}
    (held : sorted.Pairwise fun x y => before x y = false) :
    (items.foldl (fun sorted a => placeBack before a sorted) sorted).Pairwise
      fun x y => before x y = false := by
  induction items generalizing sorted with
  | nil => exact held
  | cons a rest ih => exact ih (placeBack_pairwise orders a held)

theorem stableSort_pairwise (items : List α) :
    (stableSort before items).Pairwise fun x y => before y x = false :=
  List.pairwise_reverse.mpr (foldl_placeBack_pairwise orders items .nil)

/-- Where any two items are told apart, it does not matter in which order they come. -/
theorem stableSort_eq_of_perm {items items' : List α} (permuted : items.Perm items')
    (apart : ∀ a ∈ items, ∀ b ∈ items, before a b = false → before b a = false → a = b) :
    stableSort before items = stableSort before items' := by
  have sorted := stableSort_perm before items
  have sorted' := (stableSort_perm before items').trans permuted.symm
  refine List.Perm.eq_of_pairwise (fun a b left right first second => ?_)
    (stableSort_pairwise orders items) (stableSort_pairwise orders items')
    (sorted.trans sorted'.symm)
  exact apart a (sorted.mem_iff.mp left) b (sorted'.mem_iff.mp right) second first

theorem filter_placeBack (p : α → Bool) (a : α) {sorted : List α}
    (held : sorted.Pairwise fun x y => before x y = false) :
    (placeBack before a sorted).filter p =
      if p a then placeBack before a (sorted.filter p) else sorted.filter p := by
  induction sorted with
  | nil => cases chosen : p a <;> simp [placeBack, chosen]
  | cons b rest ih =>
    obtain ⟨first, behind⟩ := List.pairwise_cons.mp held
    rw [placeBack]
    cases order : before a b with
    | true =>
      simp only [if_true]
      rw [List.filter_cons, List.filter_cons, ih behind]
      cases p a <;> cases p b <;> simp [placeBack, order]
    | false =>
      -- what is kept of the items is not before the new one either
      have none : ∀ x ∈ (b :: rest).filter p, before a x = false := by
        intro x member
        rcases List.mem_cons.mp (List.mem_filter.mp member).1 with rfl | member
        · exact order
        · exact orders.negTrans order (first x member)
      rw [placeBack_of_none none]
      simp only [Bool.false_eq_true, if_false]
      rw [List.filter_cons]

theorem filter_stableSort (p : α → Bool) (items : List α) :
    (stableSort before items).filter p = stableSort before (items.filter p) := by
  have general (sorted : List α) (held : sorted.Pairwise fun x y => before x y = false) :
      (items.foldl (fun sorted a => placeBack before a sorted) sorted).filter p =
        (items.filter p).foldl (fun sorted a => placeBack before a sorted) (sorted.filter p) := by
    induction items generalizing sorted with
    | nil => rfl
    | cons a rest ih =>
      rw [List.foldl_cons, ih _ (placeBack_pairwise orders a held),
        filter_placeBack orders p a held, List.filter_cons]
      cases p a <;> rfl
  rw [stableSort, List.filter_reverse, general [] .nil]
  rfl

end

end MemoryBank
