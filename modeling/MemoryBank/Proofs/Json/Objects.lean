import MemoryBank.Json.Object

set_option autoImplicit false

/-!
Objects as maps from their keys. With distinct keys an object is what its lookups say, whatever the
order of the entries.
-/

namespace MemoryBank.Object

@[simp] theorem keys_nil : keys [] = [] := rfl

@[simp] theorem keys_cons (key : String) (v : Json) (rest : Object) :
    keys ((key, v) :: rest) = key :: keys rest := rfl

theorem mem_keys {o : Object} {key : String} {v : Json} (h : (key, v) ∈ o) : key ∈ o.keys :=
  List.mem_map.mpr ⟨(key, v), h, rfl⟩

theorem get?_eq_none {o : Object} {key : String} : o.get? key = none ↔ key ∉ o.keys := by
  induction o with
  | nil => simp
  | cons e rest ih =>
    obtain ⟨k, v⟩ := e
    by_cases h : k = key
    · simp [h]
    · simp [h, ih, Ne.symm h]

theorem mem_of_get? {o : Object} {key : String} {v : Json} (h : o.get? key = some v) :
    (key, v) ∈ o := by
  induction o with
  | nil => simp at h
  | cons e rest ih =>
    obtain ⟨k, w⟩ := e
    rw [get?_cons] at h
    split at h
    · next same => simp_all
    · exact List.mem_cons_of_mem _ (ih h)

theorem get?_of_mem {o : Object} (distinct : o.keys.Nodup) {key : String} {v : Json}
    (h : (key, v) ∈ o) : o.get? key = some v := by
  induction o with
  | nil => simp at h
  | cons e rest ih =>
    obtain ⟨k, w⟩ := e
    rw [keys_cons, List.nodup_cons] at distinct
    rcases List.mem_cons.mp h with same | h
    · simp_all
    · have other : k ≠ key := fun same => distinct.1 (same ▸ mem_keys h)
      simp [other, ih distinct.2 h]

theorem get?_insert (o : Object) (key other : String) (v : Json) :
    (o.insert key v).get? other = if key = other then some v else o.get? other := by
  by_cases h : key = other
  · simp [← h]
  · rw [get?_insert_of_ne o v h, if_neg h]

theorem wellFormed_of_get? {o : Object} {key : String} {v : Json}
    (valid : Json.WellFormedEntries o) (h : o.get? key = some v) : v.WellFormed := by
  induction o with
  | nil => simp at h
  | cons e rest ih =>
    obtain ⟨k, w⟩ := e
    rw [get?_cons] at h
    split at h
    · obtain rfl := Option.some.inj h
      exact valid.1
    · exact ih valid.2 h

theorem keys_insert (o : Object) (key : String) (v : Json) :
    (o.insert key v).keys = if key ∈ o.keys then o.keys else o.keys ++ [key] := by
  induction o with
  | nil => simp [insert]
  | cons e rest ih =>
    obtain ⟨k, w⟩ := e
    by_cases same : k = key
    · simp [insert, same]
    · rw [insert, if_neg same, keys_cons, ih, keys_cons]
      by_cases known : key ∈ keys rest <;> simp [known, Ne.symm same]

theorem nodup_keys_insert {o : Object} (distinct : o.keys.Nodup) (key : String) (v : Json) :
    (o.insert key v).keys.Nodup := by
  rw [keys_insert]
  split
  · exact distinct
  · next new =>
    rw [List.nodup_append]
    refine ⟨distinct, by simp, ?_⟩
    intro a old b added same
    obtain rfl := List.mem_singleton.mp added
    exact new (same ▸ old)

theorem wellFormed_insert {o : Object} (valid : o.WellFormed) {v : Json} (value : v.WellFormed)
    (key : String) : (o.insert key v).WellFormed := by
  refine ⟨nodup_keys_insert valid.1 key v, ?_⟩
  have entries := valid.2
  clear valid
  induction o with
  | nil => exact ⟨value, trivial⟩
  | cons e rest ih =>
    obtain ⟨k, w⟩ := e
    rw [insert]
    split
    · exact ⟨value, entries.2⟩
    · exact ⟨entries.1, ih entries.2⟩

theorem insert_of_not_mem {o : Object} {key : String} (new : key ∉ o.keys) (v : Json) :
    o.insert key v = o ++ [(key, v)] := by
  induction o with
  | nil => rfl
  | cons e rest ih =>
    obtain ⟨k, w⟩ := e
    simp only [keys_cons, List.mem_cons, not_or] at new
    rw [insert, if_neg (Ne.symm new.1), ih new.2]
    rfl

theorem keys_append (o o' : Object) : keys (o ++ o') = o.keys ++ o'.keys := List.map_append

theorem insertAll_of_disjoint {o entries : Object} (distinct : entries.keys.Nodup)
    (new : ∀ key ∈ entries.keys, key ∉ o.keys) : o.insertAll entries = o ++ entries := by
  induction entries generalizing o with
  | nil => exact (List.append_nil o).symm
  | cons e rest ih =>
    obtain ⟨k, v⟩ := e
    rw [keys_cons, List.nodup_cons] at distinct
    rw [keys_cons, List.forall_mem_cons] at new
    have others : ∀ key ∈ keys rest, key ∉ keys (o ++ [(k, v)]) := by
      intro key member
      have other : key ≠ k := fun same => distinct.1 (same ▸ member)
      simp [keys_append, new.2 key member, other]
    have step := ih (o := o ++ [(k, v)]) distinct.2 others
    rw [← insert_of_not_mem new.1] at step
    rw [insertAll, List.foldl_cons]
    refine step.trans ?_
    rw [insert_of_not_mem new.1, List.append_assoc]
    rfl

theorem mem_keys_insert {o : Object} {key k : String} {v : Json} :
    k ∈ (o.insert key v).keys ↔ k = key ∨ k ∈ o.keys := by
  rw [keys_insert]
  split
  · next known =>
    constructor
    · exact .inr
    · rintro (rfl | member)
      · exact known
      · exact member
  · simp [or_comm]

theorem mem_keys_insertAll {entries o : Object} {k : String} :
    k ∈ (o.insertAll entries).keys ↔ k ∈ o.keys ∨ k ∈ entries.keys := by
  induction entries generalizing o with
  | nil => simp [insertAll]
  | cons e rest ih =>
    rw [insertAll, List.foldl_cons]
    refine (ih (o := o.insert e.1 e.2)).trans ?_
    rw [mem_keys_insert, show keys (e :: rest) = e.1 :: keys rest from rfl, List.mem_cons]
    grind

theorem nodup_keys_insertAll {entries o : Object} (distinct : o.keys.Nodup) :
    (o.insertAll entries).keys.Nodup := by
  induction entries generalizing o with
  | nil => exact distinct
  | cons e rest ih => exact ih (nodup_keys_insert distinct e.1 e.2)

theorem filter_of_not_mem {o : Object} {key : String} (missing : key ∉ o.keys) :
    o.filter (·.1 != key) = o := by
  rw [List.filter_eq_self]
  intro e member
  have other : e.1 ≠ key := fun same => missing (same ▸ mem_keys member)
  simpa using other

theorem get?_perm {o o' : Object} (permuted : List.Perm o o') (distinct : o.keys.Nodup)
    (key : String) : o.get? key = o'.get? key := by
  -- a lookup finds an entry by being the only one under its key, wherever it stands
  have distinct' : o'.keys.Nodup := (permuted.map Prod.fst).nodup_iff.mp distinct
  cases found : o'.get? key with
  | some v => exact get?_of_mem distinct (permuted.mem_iff.mpr (mem_of_get? found))
  | none =>
    rw [get?_eq_none] at found ⊢
    intro member
    obtain ⟨e, entry, rfl⟩ := List.mem_map.mp member
    exact found (mem_keys (permuted.mem_iff.mp entry))

theorem lastFirst_perm (o : Object) : List.Perm (lastFirst o) o := by
  cases o with
  | nil => exact .refl _
  | cons e rest =>
    have split := List.dropLast_concat_getLast (List.cons_ne_nil e rest)
    rw [lastFirst]
    refine (List.perm_append_singleton _ _).symm.trans ?_
    rw [split]

theorem erase_perm {o : Object} (distinct : o.keys.Nodup) (key : String) :
    List.Perm (o.erase key) (o.filter (·.1 != key)) := by
  induction o with
  | nil => exact .refl _
  | cons e rest ih =>
    obtain ⟨k, v⟩ := e
    rw [keys_cons, List.nodup_cons] at distinct
    -- the last entry fills the gap, which only changes the order
    by_cases same : k = key
    · rw [erase, if_pos same, List.filter_cons_of_neg (by simp [same]),
        filter_of_not_mem (same ▸ distinct.1)]
      exact lastFirst_perm rest
    · rw [erase, if_neg same, List.filter_cons_of_pos (by simp [same])]
      exact (ih distinct.2).cons _

theorem nodup_keys_filter {o : Object} (distinct : o.keys.Nodup) (p : String × Json → Bool) :
    (keys (o.filter p)).Nodup :=
  ((List.filter_sublist).map Prod.fst).nodup distinct

theorem get?_filter (o : Object) {p : String → Bool} {key : String} (kept : p key = true) :
    get? (o.filter (p ·.1)) key = o.get? key := by
  induction o with
  | nil => rfl
  | cons e rest ih =>
    obtain ⟨k, v⟩ := e
    by_cases same : k = key
    · simp [same, kept]
    · cases keep : p k <;> simp [keep, same, ih]

theorem nodup_keys_erase {o : Object} (distinct : o.keys.Nodup) (key : String) :
    (o.erase key).keys.Nodup :=
  ((erase_perm distinct key).map Prod.fst).nodup_iff.mpr (nodup_keys_filter distinct _)

theorem get?_erase_of_ne {o : Object} (distinct : o.keys.Nodup) {key other : String}
    (h : key ≠ other) : (o.erase key).get? other = o.get? other := by
  rw [get?_perm (erase_perm distinct key) (nodup_keys_erase distinct key)]
  exact get?_filter o (p := (· != key)) (by simpa using Ne.symm h)

theorem get?_append (o o' : Object) (key : String) :
    get? (o ++ o') key = (o.get? key).or (o'.get? key) := by
  induction o with
  | nil => rfl
  | cons e rest ih =>
    obtain ⟨k, v⟩ := e
    rw [List.cons_append, get?_cons, get?_cons, ih]
    split <;> rfl

/-- Of several entries with one key the last is kept. -/
theorem get?_insertAll (entries o : Object) (key : String) :
    (o.insertAll entries).get? key = (get? entries.reverse key).or (o.get? key) := by
  induction entries generalizing o with
  | nil => rfl
  | cons e rest ih =>
    obtain ⟨k, v⟩ := e
    have behind := ih (o.insert k v)
    rw [insertAll, List.foldl_cons]
    refine behind.trans ?_
    rw [List.reverse_cons, get?_append, get?_insert, Option.or_assoc, get?_cons, get?_nil]
    split <;> rfl

theorem count_keys_insert (o : Object) (key other : String) (v : Json) :
    (o.insert key v).keys.count other ≤ max 1 (o.keys.count other) := by
  rw [keys_insert]
  split
  · exact Nat.le_max_right _ _
  · next new =>
    rw [List.count_append, List.count_singleton]
    by_cases same : key = other
    · subst same
      simp [List.count_eq_zero_of_not_mem new]
    · simp only [beq_iff_eq, same, if_false, Nat.add_zero]
      exact Nat.le_max_right _ _

theorem insert_insert (o : Object) (key : String) (v w : Json) :
    (o.insert key v).insert key w = o.insert key w := by
  induction o with
  | nil => simp [insert]
  | cons e rest ih =>
    obtain ⟨k, x⟩ := e
    by_cases same : k = key
    · simp [insert, same]
    · simp [insert, same, ih]

theorem insert_comm {o : Object} {key : String} (known : key ∈ o.keys) {other : String}
    (away : key ≠ other) (v w : Json) :
    (o.insert other w).insert key v = (o.insert key v).insert other w := by
  induction o with
  | nil => cases known
  | cons e rest ih =>
    obtain ⟨k, x⟩ := e
    by_cases here : k = key
    · subst here
      simp [insert, away]
    · have behind : key ∈ keys rest := by
        rw [keys_cons, List.mem_cons] at known
        exact known.resolve_left fun same => here same.symm
      by_cases there : k = other
      · simp [insert, there, Ne.symm away]
      · simp [insert, here, there, ih behind]

theorem insert_insertAll {entries o : Object} {key : String} (new : key ∉ entries.keys)
    (known : key ∈ o.keys) (v : Json) :
    (o.insertAll entries).insert key v = (o.insert key v).insertAll entries := by
  induction entries generalizing o with
  | nil => rfl
  | cons e rest ih =>
    obtain ⟨k, w⟩ := e
    rw [keys_cons, List.mem_cons, not_or] at new
    have still : key ∈ (o.insert k w).keys := mem_keys_insert.mpr (.inr known)
    calc (o.insertAll ((k, w) :: rest)).insert key v
        = ((o.insert k w).insert key v).insertAll rest := ih new.2 still
      _ = ((o.insert key v).insert k w).insertAll rest := by rw [insert_comm known new.1]

theorem insertAll_insert {entries : Object} (distinct : entries.keys.Nodup) (o : Object)
    (key : String) (v : Json) :
    o.insertAll (entries.insert key v) = (o.insertAll entries).insert key v := by
  induction entries generalizing o with
  | nil => rfl
  | cons e rest ih =>
    obtain ⟨k, w⟩ := e
    rw [keys_cons, List.nodup_cons] at distinct
    by_cases same : k = key
    · subst same
      have known : k ∈ (o.insert k w).keys := mem_keys_insert.mpr (.inl rfl)
      rw [insert, if_pos rfl]
      calc o.insertAll ((k, v) :: rest)
          = ((o.insert k w).insert k v).insertAll rest := by rw [insert_insert]; rfl
        _ = (o.insertAll ((k, w) :: rest)).insert k v :=
            (insert_insertAll distinct.1 known v).symm
    · rw [insert, if_neg same]
      exact ih distinct.2 (o.insert k w)

/-- To put the outcome of puttings is to put again what was put. -/
theorem insertAll_insertAll {entries : Object} (distinct : entries.keys.Nodup) (o others : Object) :
    o.insertAll (entries.insertAll others) = (o.insertAll entries).insertAll others := by
  induction others generalizing entries with
  | nil => rfl
  | cons e rest ih =>
    calc o.insertAll ((entries.insert e.1 e.2).insertAll rest)
        = (o.insertAll (entries.insert e.1 e.2)).insertAll rest :=
          ih (nodup_keys_insert distinct e.1 e.2)
      _ = (o.insertAll entries).insertAll (e :: rest) := by
          rw [insertAll_insert distinct]
          rfl

end MemoryBank.Object
