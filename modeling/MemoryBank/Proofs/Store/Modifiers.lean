import MemoryBank.Proofs.Fallible
import MemoryBank.Proofs.Store.Paths
import MemoryBank.Store.Document
import MemoryBank.Store.Update

set_option autoImplicit false

/-!
What an update does to one document, whether it goes through or not. A document stays well-formed,
and its id stays unless a path of the update leads there.
-/

namespace MemoryBank

theorem Json.wellFormedEntries_iff {entries : Object} :
    WellFormedEntries entries ↔ ∀ e ∈ entries, e.2.WellFormed := by
  induction entries with
  | nil => simp [WellFormedEntries]
  | cons e rest ih => simp [WellFormedEntries, ih]

namespace Object

variable {o o' : Object} {key field : String} {v : Json} {path : Path}

theorem wellFormed_nil : WellFormed [] := ⟨.nil, trivial⟩

theorem WellFormed.of_mem (valid : o.WellFormed) (member : (key, v) ∈ o) : v.WellFormed :=
  Json.wellFormedEntries_iff.mp valid.2 _ member

theorem WellFormed.of_get? (valid : o.WellFormed) (found : o.get? key = some v) : v.WellFormed :=
  valid.of_mem (mem_of_get? found)

theorem wellFormed_erase (valid : o.WellFormed) (key : String) : (o.erase key).WellFormed := by
  refine ⟨nodup_keys_erase valid.1 key, Json.wellFormedEntries_iff.mpr fun e member => ?_⟩
  have kept := (erase_perm valid.1 key).mem_iff.mp member
  exact valid.of_mem (List.mem_filter.mp kept).1

/-- The document under a key is stored there, or is an empty one because the key is missing. -/
theorem get?_of_under {inner : Object} (under : (o.get? key).getD (.object []) = .object inner) :
    o.get? key = some (.object inner) ∨ o.get? key = none ∧ inner = [] := by
  cases found : o.get? key with
  | none => exact .inr ⟨rfl, by simpa [found, eq_comm] using under⟩
  | some w => exact .inl (congrArg some (by simpa [found] using under))

/-- A path of several parts is set in the document under its first part, or in a new one. -/
theorem exists_of_setPath {next : String} {rest : Path}
    (set : o.setPath v (field :: next :: rest) = .ok o') :
    ∃ inner inner', (o.get? field).getD (.object []) = .object inner ∧
      setPath v inner (next :: rest) = .ok inner' ∧ o' = o.insert field (.object inner') := by
  simp only [setPath] at set
  split at set
  · next missing =>
    obtain ⟨inner', below, value⟩ := Fallible.bind_eq_ok.mp set
    exact ⟨[], inner', by rw [missing]; rfl, below, (Except.ok.inj value).symm⟩
  · next inner found =>
    obtain ⟨inner', below, value⟩ := Fallible.bind_eq_ok.mp set
    exact ⟨inner, inner', by rw [found]; rfl, below, (Except.ok.inj value).symm⟩
  · cases set

theorem wellFormed_setPath (value : v.WellFormed) (valid : o.WellFormed)
    (set : o.setPath v path = .ok o') : o'.WellFormed := by
  induction path generalizing o o' with
  | nil =>
    obtain rfl := Except.ok.inj set
    exact valid
  | cons field rest ih =>
    cases rest with
    | nil =>
      obtain rfl := Except.ok.inj set
      exact wellFormed_insert valid value field
    | cons next rest =>
      obtain ⟨inner, inner', under, below, rfl⟩ := exists_of_setPath set
      refine wellFormed_insert valid (ih ?_ below) field
      rcases get?_of_under under with found | ⟨-, rfl⟩
      · exact valid.of_get? found
      · exact wellFormed_nil

theorem wellFormed_erasePath (valid : o.WellFormed) (path : Path) :
    (o.erasePath path).WellFormed := by
  induction path generalizing o with
  | nil => exact valid
  | cons field rest ih =>
    cases rest with
    | nil => exact wellFormed_erase valid field
    | cons next rest =>
      simp only [erasePath]
      split
      · next inner found => exact wellFormed_insert valid (ih (valid.of_get? found)) field
      · exact valid

theorem get?_setPath_of_ne (away : field ≠ key) (set : o.setPath v (field :: path) = .ok o') :
    o'.get? key = o.get? key := by
  cases path with
  | nil =>
    obtain rfl := Except.ok.inj set
    exact get?_insert_of_ne o v away
  | cons next rest =>
    obtain ⟨_, inner', -, -, rfl⟩ := exists_of_setPath set
    exact get?_insert_of_ne o _ away

theorem get?_erasePath_of_ne (distinct : o.keys.Nodup) (away : field ≠ key) (path : Path) :
    (o.erasePath (field :: path)).get? key = o.get? key := by
  cases path with
  | nil => exact get?_erase_of_ne distinct away
  | cons next rest =>
    simp only [erasePath]
    split
    · exact get?_insert_of_ne o _ away
    · rfl

end Object

/-- The path leads below the id, which is a document. -/
def Document.entersId (d : Document) : Path → Bool
  | first :: _ :: _ => first == idKey && ((d.get? idKey).bind (·.object?)).isSome
  | _ => false

namespace Update

/-- The update removes the id or leads below it. Setting the id as a whole is refused. -/
def reachesId (change d : Document) : Bool :=
  change.any fun e => (e.2.object?.getD []).any fun f =>
    e.1 == "$unset" && f.1 == Document.idKey || d.entersId (Path.ofText f.1)

/-- Kept by each step of the update that is taken. -/
structure KeptBy (P : Document → Prop) (change : Document) : Prop where
  set : ∀ {fields path v d d'}, ("$set", .object fields) ∈ change → (path, v) ∈ fields →
    path ≠ Document.idKey → P d → d.setPath v (Path.ofText path) = .ok d' → P d'
  unset : ∀ {fields path v d}, ("$unset", .object fields) ∈ change → (path, v) ∈ fields →
    P d → P (d.erasePath (Path.ofText path))

section

variable {P : Document → Prop} {fields change d : Document}

theorem setAll_of_kept (set : ∀ path v, (path, v) ∈ fields → path ≠ Document.idKey →
      ∀ d d', P d → d.setPath v (Path.ofText path) = .ok d' → P d') (start : P d) :
    P (setAll fields d).2 := by
  induction fields generalizing d with
  | nil => exact start
  | cons f rest ih =>
    have behind := fun path v member => set path v (List.mem_cons_of_mem f member)
    rw [setAll]
    split
    · exact start
    · next other =>
      split
      · next d' done => exact ih behind (set _ _ List.mem_cons_self other d d' start done)
      · exact start

theorem unsetAll_of_kept (unset : ∀ path v, (path, v) ∈ fields →
      ∀ d, P d → P (d.erasePath (Path.ofText path))) (start : P d) : P (unsetAll fields d) := by
  induction fields generalizing d with
  | nil => exact start
  | cons f rest ih =>
    apply ih fun path v member => unset path v (List.mem_cons_of_mem f member)
    exact unset _ _ List.mem_cons_self d start

theorem KeptBy.modify {modifier : String} (kept : KeptBy P change)
    (member : (modifier, .object fields) ∈ change) (start : P d) :
    P (modify modifier fields d).2 := by
  unfold Update.modify
  split
  · next here =>
    subst here
    exact setAll_of_kept (fun _ _ f other _ _ => kept.set member f other) start
  · split
    · next here =>
      subst here
      exact unsetAll_of_kept (fun _ _ f _ => kept.unset member f) start
    · exact start

theorem KeptBy.applyAll {modifiers : Document} (kept : KeptBy P change)
    (among : modifiers ⊆ change) (start : P d) : P (applyAll modifiers d).2 := by
  induction modifiers generalizing d with
  | nil => exact start
  | cons e rest ih =>
    obtain ⟨modifier, value⟩ := e
    have behind : rest ⊆ change := fun e member => among (List.mem_cons_of_mem _ member)
    cases value with
    | object fields =>
      have step : P (Update.modify modifier fields d).2 :=
        kept.modify (among List.mem_cons_self) start
      rw [Update.applyAll]
      split
      · next done => exact ih behind (by simpa [done] using step)
      · next failed => simpa [failed] using step
    | null | bool _ | number _ | string _ | array _ => exact start

theorem KeptBy.apply (kept : KeptBy P change) (start : P d) : P (apply change d).2 := by
  unfold Update.apply
  split
  · exact start
  · exact kept.applyAll (fun _ member => member) start

end

variable {change d : Document}

theorem wellFormed_keptBy (valid : change.WellFormed) : KeptBy Object.WellFormed change where
  set {fields} _ _ _ _ listed member _ own done :=
    have values : Object.WellFormed fields := valid.of_mem listed
    Object.wellFormed_setPath (values.of_mem member) own done
  unset _ _ own := Object.wellFormed_erasePath own _

theorem wellFormed_apply (valid : change.WellFormed) (own : d.WellFormed) :
    (apply change d).2.WellFormed :=
  (wellFormed_keptBy valid).apply own

theorem away_of_reachesId (away : reachesId change d = false) {modifier path : String}
    {fields : Object} {v : Json} (listed : (modifier, .object fields) ∈ change)
    (member : (path, v) ∈ fields) :
    (modifier = "$unset" → path ≠ Document.idKey) ∧ d.entersId (Path.ofText path) = false := by
  have each : ∀ path v, (path, v) ∈ fields →
      (modifier = "$unset" → path ≠ Document.idKey) ∧ d.entersId (Path.ofText path) = false := by
    simpa [Json.object?] using List.any_eq_false.mp away _ listed
  exact each path v member

theorem id_keptBy (valid : change.WellFormed) (named : d.contains Document.idKey = true)
    (away : reachesId change d = false) :
    KeptBy (fun e => Object.WellFormed e ∧ e.get? Document.idKey = d.get? Document.idKey)
      change where
  set {fields path v e e'} listed member other own done := by
    refine ⟨(wellFormed_keptBy valid).set listed member other own.1 done, ?_⟩
    obtain ⟨-, outside⟩ := away_of_reachesId away listed member
    cases parts : Path.ofText path with
    | nil => exact absurd parts (Path.ofText_ne_nil path)
    | cons first rest =>
      rw [parts] at done outside
      by_cases here : first = Document.idKey
      · subst here
        cases rest with
        | nil => exact absurd (Path.eq_of_ofText parts) other
        | cons next rest =>
          obtain ⟨inner, _, under, -, -⟩ := Object.exists_of_setPath done
          rw [own.2] at under
          cases found : d.get? Document.idKey with
          | none => simp [Object.contains, found] at named
          | some w => simp_all [Document.entersId, Json.object?]
      · exact (Object.get?_setPath_of_ne here done).trans own.2
  unset {fields path v e} listed member own := by
    refine ⟨(wellFormed_keptBy valid).unset listed member own.1, ?_⟩
    obtain ⟨other, outside⟩ := away_of_reachesId away listed member
    cases parts : Path.ofText path with
    | nil => exact absurd parts (Path.ofText_ne_nil path)
    | cons first rest =>
      rw [parts] at outside
      by_cases here : first = Document.idKey
      · subst here
        cases rest with
        | nil => exact absurd (Path.eq_of_ofText parts) (other rfl)
        | cons next rest =>
          simp only [Object.erasePath]
          split
          · next inner found => simp [Document.entersId, Json.object?, ← own.2, found] at outside
          · exact own.2
      · exact (Object.get?_erasePath_of_ne own.1.1 here rest).trans own.2

theorem get?_id_apply (valid : change.WellFormed) (own : d.WellFormed)
    (named : d.contains Document.idKey = true) (away : reachesId change d = false) :
    (apply change d).2.get? Document.idKey = d.get? Document.idKey :=
  ((id_keptBy valid named away).apply ⟨own, rfl⟩).2

end Update

end MemoryBank
