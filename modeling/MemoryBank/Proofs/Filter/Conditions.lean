import MemoryBank.Filter.Condition
import MemoryBank.Proofs.Fallible
import MemoryBank.Proofs.Json.Objects

set_option autoImplicit false

/-!
Conditions read from a set of filters: one for each entry, no two of them on the same field, and
their operands are parts of the values they were read from.
-/

namespace MemoryBank

namespace NameMap

variable {α : Type}

theorem mem_without {entries : List (String × α)} {name : String} {e : String × α} :
    e ∈ without entries name ↔ e ∈ entries ∧ e.1 ≠ name := by
  induction entries with
  | nil => simp [without]
  | cons first rest ih =>
    obtain ⟨k, a⟩ := first
    by_cases same : k = name
    · rw [without, if_pos same, ih]
      constructor
      · rintro ⟨member, other⟩
        exact ⟨List.mem_cons_of_mem _ member, other⟩
      · rintro ⟨member, other⟩
        rcases List.mem_cons.mp member with rfl | member
        · exact absurd same other
        · exact ⟨member, other⟩
    · rw [without, if_neg same, List.mem_cons, List.mem_cons, ih]
      constructor
      · rintro (rfl | ⟨member, other⟩)
        · exact ⟨.inl rfl, same⟩
        · exact ⟨.inr member, other⟩
      · rintro ⟨rfl | member, other⟩
        · exact .inl rfl
        · exact .inr ⟨member, other⟩

theorem place_perm (name : String) (a : α) (entries : List (String × α)) :
    (place name a entries).Perm ((name, a) :: entries) := by
  induction entries with
  | nil => exact .refl _
  | cons first rest ih =>
    obtain ⟨k, b⟩ := first
    by_cases before : name < k
    · simp [place, before]
    · rw [place, if_neg before]
      exact (ih.cons _).trans (.swap _ _ _)

theorem without_sublist (entries : List (String × α)) (name : String) :
    (without entries name).Sublist entries := by
  induction entries with
  | nil => exact .refl _
  | cons first rest ih =>
    obtain ⟨k, a⟩ := first
    by_cases same : k = name
    · rw [without, if_pos same]
      exact ih.cons _
    · rw [without, if_neg same]
      exact ih.cons_cons _

theorem nodup_names_insert {m : NameMap α} (distinct : m.names.Nodup) (name : String) (a : α) :
    (m.insert name a).names.Nodup := by
  have permuted := (place_perm name a (without m.entries name)).map Prod.fst
  rw [names, insert, permuted.nodup_iff, List.map_cons, List.nodup_cons]
  constructor
  · intro member
    obtain ⟨e, member, same⟩ := List.mem_map.mp member
    exact (mem_without.mp member).2 same
  · exact ((without_sublist m.entries name).map Prod.fst).nodup distinct

theorem mem_insert {m : NameMap α} {name : String} {a : α} {e : String × α}
    (h : e ∈ (m.insert name a).entries) : e = (name, a) ∨ e ∈ m.entries := by
  rcases List.mem_cons.mp ((place_perm name a _).mem_iff.mp h) with rfl | member
  · exact .inl rfl
  · exact .inr (mem_without.mp member).1

theorem without_of_absent {entries : List (String × α)} {name : String}
    (absent : ∀ e ∈ entries, e.1 ≠ name) : without entries name = entries := by
  induction entries with
  | nil => rfl
  | cons first rest ih =>
    rw [List.forall_mem_cons] at absent
    obtain ⟨k, a⟩ := first
    rw [without, if_neg absent.1, ih absent.2]

theorem without_place {entries : List (String × α)} {name : String}
    (absent : ∀ e ∈ entries, e.1 ≠ name) (a : α) :
    without (place name a entries) name = entries := by
  induction entries with
  | nil => simp [place, without]
  | cons first rest ih =>
    have others := without_of_absent absent
    rw [List.forall_mem_cons] at absent
    obtain ⟨k, b⟩ := first
    rw [place]
    split
    · rw [without, if_pos rfl, others]
    · rw [without, if_neg absent.1, ih absent.2]

theorem insert_insert (m : NameMap α) (name : String) (a b : α) :
    (m.insert name a).insert name b = m.insert name b := by
  have absent : ∀ e ∈ without m.entries name, e.1 ≠ name := fun e member =>
    (mem_without.mp member).2
  rw [insert, insert, insert, without_place absent]

theorem insertAll_spec (entries : List (String × α)) (m : NameMap α) (distinct : m.names.Nodup) :
    (insertAll m entries).names.Nodup ∧
      ∀ e ∈ (insertAll m entries).entries, e ∈ m.entries ∨ e ∈ entries := by
  induction entries generalizing m with
  | nil => exact ⟨distinct, fun e member => .inl member⟩
  | cons first rest ih =>
    -- the accumulator already has the first entry, which may have replaced one of its own
    obtain ⟨names, members⟩ := ih (m.insert first.1 first.2) (nodup_names_insert distinct _ _)
    refine ⟨names, fun e member => ?_⟩
    rcases members e member with old | new
    · rcases mem_insert old with rfl | old
      · exact .inr List.mem_cons_self
      · exact .inl old
    · exact .inr (List.mem_cons_of_mem _ new)

theorem mem_of_lookup {entries : List (String × α)} {name : String} {a : α}
    (found : lookup entries name = some a) : (name, a) ∈ entries := by
  induction entries with
  | nil => cases found
  | cons first rest ih =>
    obtain ⟨k, b⟩ := first
    rw [lookup] at found
    split at found
    · next same =>
      obtain rfl := Option.some.inj found
      rw [same]
      exact List.mem_cons_self
    · exact List.mem_cons_of_mem _ (ih found)

theorem lookup_of_mem {entries : List (String × α)} (distinct : (entries.map Prod.fst).Nodup)
    {name : String} {a : α} (member : (name, a) ∈ entries) : lookup entries name = some a := by
  induction entries with
  | nil => cases member
  | cons first rest ih =>
    obtain ⟨k, b⟩ := first
    rw [List.map_cons, List.nodup_cons] at distinct
    rcases List.mem_cons.mp member with same | behind
    · obtain ⟨rfl, rfl⟩ := Prod.mk.inj same
      rw [lookup, if_pos rfl]
    · have other : k ≠ name := by
        rintro rfl
        exact distinct.1 (List.mem_map.mpr ⟨(k, a), behind, rfl⟩)
      rw [lookup, if_neg other]
      exact ih distinct.2 behind

theorem get?_insertAll {entries : List (String × α)} (distinct : (entries.map Prod.fst).Nodup)
    (m : NameMap α) (name : String) :
    (insertAll m entries).get? name = (lookup entries name).or (m.get? name) := by
  induction entries generalizing m with
  | nil => rfl
  | cons first rest ih =>
    obtain ⟨k, a⟩ := first
    rw [List.map_cons, List.nodup_cons] at distinct
    have behind := ih distinct.2 (m.insert k a)
    rw [get?_insert] at behind
    rw [insertAll, List.foldl_cons]
    refine behind.trans ?_
    by_cases same : name = k
    · -- no later entry takes the place of the first
      have missing : lookup rest name = none := by
        cases found : lookup rest name with
        | none => rfl
        | some b =>
          have member : name ∈ rest.map Prod.fst :=
            List.mem_map.mpr ⟨(name, b), mem_of_lookup found, rfl⟩
          exact absurd (same ▸ member) distinct.1
      rw [if_pos same, lookup, if_pos same.symm, missing]
      rfl
    · rw [if_neg same, lookup, if_neg (Ne.symm same)]

end NameMap

def Test.WellFormed : Test → Prop
  | .equals v => v.WellFormed
  | .oneOf vs => (Json.array vs).WellFormed

namespace Condition

theorem parseTest_wellFormed {field : String} {v : Json} (valid : v.WellFormed) {t : Test}
    (parsed : parseTest field v = .ok t) : t.WellFormed := by
  cases v with
  | object o =>
    rw [parseTest] at parsed
    unfold parseOperator at parsed
    split at parsed
    · obtain rfl := Except.ok.inj parsed
      exact valid.2.1
    · obtain rfl := Except.ok.inj parsed
      exact valid.2.1
    all_goals cases parsed
  | null | bool _ | number _ | string _ | array _ =>
    obtain rfl := Except.ok.inj parsed
    exact valid

theorem parse_eq_ok {field : String} {v : Json} {c : Condition} (parsed : parse field v = .ok c) :
    c.field = field ∧ parseTest field v = .ok c.test := by
  unfold parse at parsed
  split at parsed
  · cases parsed
  split at parsed
  · cases parsed
  obtain ⟨t, test, rfl⟩ := Fallible.map_eq_ok.mp parsed
  exact ⟨rfl, test⟩

theorem mapM_parse_eq_ok {entries : List (String × Json)} {cs : List Condition}
    (parsed : entries.mapM (fun e => parse e.1 e.2) = .ok cs) :
    cs.map (·.field) = entries.map (·.1) ∧
      ∀ c ∈ cs, ∃ v, (c.field, v) ∈ entries ∧ parseTest c.field v = .ok c.test := by
  induction entries generalizing cs with
  | nil =>
    obtain rfl : [] = cs := Except.ok.inj parsed
    simp
  | cons e rest ih =>
    obtain ⟨c, others, first, tail, rfl⟩ := Fallible.mapM_cons_eq_ok.mp parsed
    obtain ⟨field, test⟩ := parse_eq_ok first
    obtain ⟨fields, tests⟩ := ih tail
    refine ⟨by simp [field, fields], ?_⟩
    rintro d member
    rcases List.mem_cons.mp member with rfl | member
    · exact ⟨e.2, by simp [field], field ▸ test⟩
    · obtain ⟨v, member, test⟩ := tests d member
      exact ⟨v, List.mem_cons_of_mem _ member, test⟩

end Condition

namespace Filters

theorem conditions_distinct {o : Object} {cs : List Condition}
    (parsed : (ofObject o).conditions = .ok cs) : (cs.map (·.field)).Nodup := by
  rw [(Condition.mapM_parse_eq_ok parsed).1]
  exact (NameMap.insertAll_spec o .empty .nil).1

theorem conditions_wellFormed {o : Object} (valid : o.WellFormed) {cs : List Condition}
    (parsed : (ofObject o).conditions = .ok cs) : ∀ c ∈ cs, c.test.WellFormed := by
  intro c member
  obtain ⟨v, entry, test⟩ := (Condition.mapM_parse_eq_ok parsed).2 c member
  have source : (c.field, v) ∈ o := by
    rcases (NameMap.insertAll_spec o .empty .nil).2 _ entry with none | entry
    · cases none
    · exact entry
  exact Condition.parseTest_wellFormed
    (Object.wellFormed_of_get? valid.2 (Object.get?_of_mem valid.1 source)) test

end Filters

end MemoryBank
