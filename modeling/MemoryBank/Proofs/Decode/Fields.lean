import MemoryBank.Decode.Fields
import MemoryBank.Proofs.Fallible
import MemoryBank.Proofs.Json.Objects

set_option autoImplicit false

/-!
Sorting out the entries of an object, one entry or one run of unknown entries at a time.
-/

namespace MemoryBank.Fields

theorem sortOut_known {fields : List Field} {f : Field} {key : String} {v : Json}
    {seen : List String} (answers : fields.find? (·.answersTo key) = some f)
    (new : f.name ∉ seen) (checked : f.check v = .ok ()) (rest : Object) :
    sortOut fields seen ((key, v) :: rest) =
      (fun r => ((f.name, v) :: r.1, r.2)) <$> sortOut fields (f.name :: seen) rest := by
  simp only [sortOut, answers, List.contains_eq_mem, new, decide_false, checked]
  cases sortOut fields (f.name :: seen) rest <;> rfl

theorem sortOut_unknown {fields : List Field} {entries : Object}
    (unknown : ∀ key ∈ entries.keys, fields.find? (·.answersTo key) = none) (seen : List String)
    (rest : Object) :
    sortOut fields seen (entries ++ rest) =
      (fun r => (r.1, entries ++ r.2)) <$> sortOut fields seen rest := by
  induction entries with
  | nil => cases h : sortOut fields seen rest <;> simp [h]
  | cons e entries ih =>
    obtain ⟨key, v⟩ := e
    rw [Object.keys_cons, List.forall_mem_cons] at unknown
    simp only [List.cons_append, sortOut, unknown.1, ih unknown.2]
    cases sortOut fields seen rest <;> rfl

/-- Names that differ from each other and from those seen, the first of them seen next. -/
theorem fresh_cons_iff {name : String} {names seen : List String} :
    ((name :: names).Nodup ∧ ∀ n ∈ name :: names, n ∉ seen) ↔
      name ∉ seen ∧ names.Nodup ∧ ∀ n ∈ names, n ∉ name :: seen := by
  grind

theorem sortOut_named {fields : List Field} {entries : Object} {seen : List String}
    (named : ∀ e ∈ entries,
      ∃ f, fields.find? (·.answersTo e.1) = some f ∧ f.name = e.1 ∧ f.check e.2 = .ok ())
    (distinct : entries.keys.Nodup) (new : ∀ key ∈ entries.keys, key ∉ seen) (rest : Object) :
    sortOut fields seen (entries ++ rest) =
      (fun r => (entries ++ r.1, r.2)) <$> sortOut fields (entries.keys.reverse ++ seen) rest := by
  induction entries generalizing seen with
  | nil => cases h : sortOut fields seen rest <;> simp [h]
  | cons e entries ih =>
    obtain ⟨key, v⟩ := e
    -- the name of this field is now seen, which the others must not be
    obtain ⟨⟨f, answers, name, checked⟩, others⟩ := List.forall_mem_cons.mp named
    rw [Object.keys_cons] at distinct new
    obtain ⟨fresh, apart, later⟩ := fresh_cons_iff.mp ⟨distinct, new⟩
    obtain rfl : f.name = key := name
    rw [List.cons_append, sortOut_known answers fresh checked, ih others apart later,
      Object.keys_cons, List.reverse_cons, List.append_assoc, List.singleton_append]
    cases sortOut fields ((Object.keys entries).reverse ++ f.name :: seen) rest <;> rfl

theorem sortOut_cons_eq_ok_iff {fields : List Field} {seen : List String} {key : String} {v : Json}
    {rest known others : Object} :
    sortOut fields seen ((key, v) :: rest) = .ok (known, others) ↔
      (∃ others', fields.find? (·.answersTo key) = none ∧ others = (key, v) :: others' ∧
        sortOut fields seen rest = .ok (known, others')) ∨
      ∃ f known', fields.find? (·.answersTo key) = some f ∧ known = (f.name, v) :: known' ∧
        f.name ∉ seen ∧ f.check v = .ok () ∧
        sortOut fields (f.name :: seen) rest = .ok (known', others) := by
  constructor
  · intro sorted
    rw [sortOut] at sorted
    split at sorted
    · next unknown =>
      obtain ⟨r, behind, pair⟩ := Fallible.bind_eq_ok.mp sorted
      cases pair
      exact .inl ⟨r.2, unknown, rfl, behind⟩
    · next f answers =>
      split at sorted
      · cases sorted
      · next new =>
        obtain ⟨_, checked, sorted⟩ := Fallible.bind_eq_ok.mp sorted
        obtain ⟨r, behind, pair⟩ := Fallible.bind_eq_ok.mp sorted
        cases pair
        exact .inr ⟨f, r.1, answers, rfl, by simpa using new, checked, behind⟩
  · rintro (⟨others', unknown, rfl, behind⟩ | ⟨f, known', answers, rfl, new, checked, behind⟩)
    · have unknown : ∀ k ∈ Object.keys [(key, v)], fields.find? (·.answersTo k) = none :=
        List.forall_mem_singleton.mpr unknown
      exact (sortOut_unknown unknown seen rest).trans (by rw [behind]; rfl)
    · rw [sortOut_known answers new checked, behind]
      rfl

theorem sortOut_others {fields : List Field} {seen : List String} {o known others : Object}
    (sorted : sortOut fields seen o = .ok (known, others)) :
    ∀ key ∈ others.keys, key ∈ o.keys ∧ fields.find? (·.answersTo key) = none := by
  induction o generalizing seen known others with
  | nil =>
    cases sorted
    simp
  | cons e rest ih =>
    obtain ⟨k, v⟩ := e
    intro key member
    rcases sortOut_cons_eq_ok_iff.mp sorted with
      ⟨others', unknown, rfl, behind⟩ | ⟨f, known', -, -, -, -, behind⟩
    · rcases List.mem_cons.mp member with rfl | member
      · exact ⟨List.mem_cons_self, unknown⟩
      · obtain ⟨source, none⟩ := ih behind key member
        exact ⟨List.mem_cons_of_mem _ source, none⟩
    · obtain ⟨source, none⟩ := ih behind key member
      exact ⟨List.mem_cons_of_mem _ source, none⟩

theorem get?_sortOut {fields : List Field} {name : String}
    (own : ∀ key f, fields.find? (·.answersTo key) = some f → (f.name = name ↔ key = name))
    (known : fields.find? (·.answersTo name) ≠ none) {seen : List String}
    {o found others : Object} (sorted : sortOut fields seen o = .ok (found, others)) :
    found.get? name = o.get? name := by
  induction o generalizing seen found others with
  | nil => cases sorted; rfl
  | cons e rest ih =>
    obtain ⟨k, v⟩ := e
    -- an unknown key is not the name, and a known one is the name only as the name of its field
    rcases sortOut_cons_eq_ok_iff.mp sorted with
      ⟨others', unknown, -, behind⟩ | ⟨f, found', answers, rfl, -, -, behind⟩
    · have other : k ≠ name := fun same => known (same ▸ unknown)
      rw [Object.get?_cons, if_neg other, ih behind]
    · simp only [Object.get?_cons, own k f answers, ih behind]

/-- An entry under the name of the field it answers to. -/
def underName? (fields : List Field) (e : String × Json) : Option (String × Json) :=
  (fields.find? (·.answersTo e.1)).map fun f => (f.name, e.2)

theorem sortOut_eq_ok_iff {fields : List Field} {seen : List String} {o known others : Object} :
    sortOut fields seen o = .ok (known, others) ↔
      o.filterMap (underName? fields) = known ∧
        o.filter (fun e => (underName? fields e).isNone) = others ∧
        (∀ e ∈ o, ∀ f, fields.find? (·.answersTo e.1) = some f → f.check e.2 = .ok ()) ∧
        known.keys.Nodup ∧ ∀ name ∈ known.keys, name ∉ seen := by
  induction o generalizing seen known others with
  | nil =>
    constructor
    · intro sorted
      cases sorted
      simp
    · rintro ⟨rfl, rfl, -⟩
      rfl
  | cons e rest ih =>
    obtain ⟨key, v⟩ := e
    rw [List.forall_mem_cons, sortOut_cons_eq_ok_iff]
    simp only [ih]
    cases answers : fields.find? (·.answersTo key) with
    | none =>
      have left : underName? fields (key, v) = none := by simp [underName?, answers]
      rw [List.filterMap_cons_none left, List.filter_cons_of_pos (by rw [left]; rfl)]
      constructor
      · rintro (⟨kept, -, rfl, rfl, rfl, checked, once⟩ | ⟨f, -, answered, -⟩)
        · exact ⟨rfl, rfl, ⟨fun _ => nofun, checked⟩, once⟩
        · cases answered
      · rintro ⟨rfl, rfl, ⟨-, checked⟩, once⟩
        exact .inl ⟨_, rfl, rfl, rfl, rfl, checked, once⟩
    | some f =>
      have taken : underName? fields (key, v) = some (f.name, v) := by simp [underName?, answers]
      rw [List.filterMap_cons_some taken, List.filter_cons_of_neg (by rw [taken]; exact nofun)]
      constructor
      · rintro (⟨-, answered, -⟩ | ⟨g, found, ⟨⟩, rfl, new, checked, rfl, rfl, others, once⟩)
        · cases answered
        · refine ⟨rfl, rfl, ⟨fun h same => Option.some.inj same ▸ checked, others⟩, ?_⟩
          exact fresh_cons_iff.mpr ⟨new, once⟩
      · rintro ⟨rfl, rfl, ⟨checked, others⟩, once⟩
        obtain ⟨new, once⟩ := fresh_cons_iff.mp once
        exact .inr ⟨f, _, rfl, rfl, new, checked f rfl, rfl, rfl, others, once⟩

/-- What is read under a key depends on its entry alone. -/
theorem get_of_same {α : Type} {o o' : Object} {key : String} (same : o'.get? key = o.get? key)
    (decode : Decoder α) : get o' key decode = get o key decode := by
  rw [get, get, same]

theorem get?_of_same {α : Type} {o o' : Object} {key : String} (same : o'.get? key = o.get? key)
    (decode : Decoder α) : get? o' key decode = get? o key decode :=
  get_of_same same _

end MemoryBank.Fields
