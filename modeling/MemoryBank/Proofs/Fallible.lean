set_option autoImplicit false

/-!
Steps that may fail, taken one after another.
-/

namespace MemoryBank.Fallible

variable {ε α β : Type}

@[simp] theorem ok_bind (a : α) (f : α → Except ε β) : (Except.ok a >>= f) = f a := rfl

@[simp] theorem error_bind (cause : ε) (f : α → Except ε β) :
    (Except.error cause >>= f) = .error cause := rfl

@[simp] theorem ok_map (f : α → β) (a : α) : f <$> (Except.ok a : Except ε α) = .ok (f a) := rfl

@[simp] theorem error_map (f : α → β) (cause : ε) :
    f <$> (Except.error cause : Except ε α) = .error cause := rfl

theorem bind_eq_ok {x : Except ε α} {f : α → Except ε β} {b : β} :
    (x >>= f) = .ok b ↔ ∃ a, x = .ok a ∧ f a = .ok b := by
  cases x with
  | error cause => exact ⟨nofun, nofun⟩
  | ok a =>
    constructor
    · exact fun value => ⟨a, rfl, value⟩
    · rintro ⟨_, ⟨⟩, value⟩
      exact value

theorem map_eq_ok {f : α → β} {x : Except ε α} {b : β} :
    f <$> x = .ok b ↔ ∃ a, x = .ok a ∧ f a = b := by
  cases x with
  | error cause => exact ⟨nofun, nofun⟩
  | ok a =>
    constructor
    · exact fun value => ⟨a, rfl, Except.ok.inj value⟩
    · rintro ⟨_, ⟨⟩, value⟩
      exact congrArg Except.ok value

theorem mapM_cons_eq_ok {f : α → Except ε β} {x : α} {xs : List α} {ys : List β} :
    (x :: xs).mapM f = .ok ys ↔ ∃ y rest, f x = .ok y ∧ xs.mapM f = .ok rest ∧ ys = y :: rest := by
  rw [List.mapM_cons]
  constructor
  · intro h
    obtain ⟨y, first, h⟩ := bind_eq_ok.mp h
    obtain ⟨rest, tail, h⟩ := bind_eq_ok.mp h
    exact ⟨y, rest, first, tail, (Except.ok.inj h).symm⟩
  · rintro ⟨y, rest, first, tail, rfl⟩
    rw [first, tail]
    rfl

theorem mapM_eq_map {f : α → Except ε β} {g : α → β} {xs : List α}
    (each : ∀ x ∈ xs, f x = .ok (g x)) : xs.mapM f = .ok (xs.map g) := by
  induction xs with
  | nil => rfl
  | cons x xs ih =>
    rw [List.forall_mem_cons] at each
    exact mapM_cons_eq_ok.mpr ⟨g x, xs.map g, each.1, ih each.2, rfl⟩

theorem eq_map_of_mapM {f : α → Except ε β} {g : α → β} (value : ∀ x y, f x = .ok y → y = g x)
    {xs : List α} {ys : List β} (mapped : xs.mapM f = .ok ys) : ys = xs.map g := by
  induction xs generalizing ys with
  | nil => exact (Except.ok.inj mapped).symm
  | cons x xs ih =>
    obtain ⟨y, rest, first, tail, rfl⟩ := mapM_cons_eq_ok.mp mapped
    rw [List.map_cons, value x y first, ih tail]

theorem exists_of_mem_mapM {f : α → Except ε β} {xs : List α} {ys : List β}
    (mapped : xs.mapM f = .ok ys) {y : β} (member : y ∈ ys) : ∃ x ∈ xs, f x = .ok y := by
  induction xs generalizing ys with
  | nil =>
    obtain rfl : [] = ys := Except.ok.inj mapped
    cases member
  | cons x xs ih =>
    obtain ⟨z, rest, first, tail, rfl⟩ := mapM_cons_eq_ok.mp mapped
    rcases List.mem_cons.mp member with rfl | member
    · exact ⟨x, List.mem_cons_self, first⟩
    · obtain ⟨x', behind, value⟩ := ih tail member
      exact ⟨x', List.mem_cons_of_mem x behind, value⟩

theorem exists_mem_of_mapM {f : α → Except ε β} {xs : List α} {ys : List β}
    (mapped : xs.mapM f = .ok ys) {x : α} (member : x ∈ xs) : ∃ y ∈ ys, f x = .ok y := by
  induction xs generalizing ys with
  | nil => cases member
  | cons x' xs ih =>
    obtain ⟨z, rest, first, tail, rfl⟩ := mapM_cons_eq_ok.mp mapped
    rcases List.mem_cons.mp member with rfl | member
    · exact ⟨z, List.mem_cons_self, first⟩
    · obtain ⟨y, behind, value⟩ := ih tail member
      exact ⟨y, List.mem_cons_of_mem z behind, value⟩

theorem exists_mapM_eq_ok {f : α → Except ε β} {xs : List α}
    (each : ∀ x ∈ xs, ∃ y, f x = .ok y) : ∃ ys, xs.mapM f = .ok ys := by
  induction xs with
  | nil => exact ⟨[], rfl⟩
  | cons x xs ih =>
    rw [List.forall_mem_cons] at each
    obtain ⟨y, first⟩ := each.1
    obtain ⟨ys, behind⟩ := ih each.2
    exact ⟨y :: ys, mapM_cons_eq_ok.mpr ⟨y, ys, first, behind, rfl⟩⟩

/-- To leave out what is mapped is to leave out what it is mapped from. -/
theorem mapM_filter {f : α → Except ε β} {xs : List α} {ys : List β}
    (mapped : xs.mapM f = .ok ys) {p : α → Bool} {q : β → Bool}
    (agree : ∀ x ∈ xs, ∀ y, f x = .ok y → p x = q y) :
    (xs.filter p).mapM f = .ok (ys.filter q) := by
  induction xs generalizing ys with
  | nil =>
    obtain rfl := Except.ok.inj mapped
    rfl
  | cons x xs ih =>
    rw [List.forall_mem_cons] at agree
    obtain ⟨y, rest, first, behind, rfl⟩ := mapM_cons_eq_ok.mp mapped
    have others := ih behind agree.2
    rw [List.filter_cons, List.filter_cons, agree.1 y first]
    split
    · exact mapM_cons_eq_ok.mpr ⟨y, _, first, others, rfl⟩
    · exact others

theorem length_of_mapM {f : α → Except ε β} {xs : List α} {ys : List β}
    (mapped : xs.mapM f = .ok ys) : ys.length = xs.length := by
  induction xs generalizing ys with
  | nil => rw [← Except.ok.inj mapped]; rfl
  | cons x xs ih =>
    obtain ⟨y, rest, -, behind, rfl⟩ := mapM_cons_eq_ok.mp mapped
    rw [List.length_cons, ih behind, List.length_cons]

end MemoryBank.Fallible
