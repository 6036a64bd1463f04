import Mathlib.Data.List.Nodup
import MemoryBank.Proofs.Memory.Codec
import MemoryBank.Proofs.Memory.Expiry

set_option autoImplicit false

/-!
What is read out of a stored payload, entry by entry. Main statement: an object can be read exactly
if no typed key occurs twice, the session has at most one name, and each typed entry can be read by
itself; all other entries are metadata.
-/

namespace MemoryBank

namespace Object

theorem keys_filter (o : Object) (p : String → Bool) :
    keys (o.filter (p ·.1)) = o.keys.filter p := List.filter_map.symm

theorem nodup_keys_filter_iff {o : Object} {p : String → Bool} :
    (keys (o.filter (p ·.1))).Nodup ↔ ∀ key, p key = true → o.keys.count key ≤ 1 := by
  rw [keys_filter, List.nodup_iff_count_le_one]
  constructor
  · intro once key kept
    rw [← List.count_filter kept]
    exact once key
  · intro once key
    cases kept : p key with
    | true =>
      rw [List.count_filter kept]
      exact once key kept
    | false =>
      have gone : key ∉ o.keys.filter p := by simp [kept]
      rw [List.count_eq_zero_of_not_mem gone]
      exact Nat.zero_le 1

theorem get?_of_mem_of_count {o : Object} {key : String} {v : Json} (once : o.keys.count key ≤ 1)
    (h : (key, v) ∈ o) : o.get? key = some v := by
  induction o with
  | nil => cases h
  | cons e rest ih =>
    obtain ⟨k, w⟩ := e
    rw [keys_cons, List.count_cons] at once
    rcases List.mem_cons.mp h with same | behind
    · simp_all
    · -- an entry behind the first is already counted, so the first has another key
      have counted := List.count_pos_iff.mpr (mem_keys behind)
      by_cases same : k = key
      · simp [same] at once
        omega
      · rw [get?_cons, if_neg same]
        exact ih (by omega) behind

end Object

/-- Keys that name an owner. -/
def Scope.owns (key : String) : Bool := keys.contains key || key == sessionAlias

/-- The name an owner is read under. -/
def Scope.ownName (key : String) : String := if key = sessionAlias then "run_id" else key

namespace Payload

def owns (key : String) : Bool := ["data", "category", expiryKey].contains key

/-- Keys that are not left to the metadata. -/
def typed (key : String) : Bool := owns key || Scope.owns key

theorem underName?_fields (e : String × Json) :
    Fields.underName? fields e = if owns e.1 then some e else none := by
  obtain ⟨key, v⟩ := e
  by_cases data : key = "data"
  · subst data; rfl
  by_cases category : key = "category"
  · subst category; rfl
  by_cases expiry : key = expiryKey
  · subst expiry; rfl
  have none : owns key = false := by simp [owns, data, category, expiry]
  rw [Fields.underName?, answersTo_eq_none ⟨data, category, expiry⟩, none]
  rfl

end Payload

theorem Scope.underName?_fields (e : String × Json) :
    Fields.underName? fields e = if owns e.1 then some (ownName e.1, e.2) else none := by
  obtain ⟨key, v⟩ := e
  by_cases owner : key ∈ keys
  · simp only [keys, List.mem_cons, List.not_mem_nil, or_false] at owner
    rcases owner with rfl | rfl | rfl <;> rfl
  by_cases second : key = sessionAlias
  · subst second; rfl
  have none : owns key = false := by simp [owns, owner, second]
  rw [Fields.underName?, answersTo_eq_none owner second, none]
  rfl

namespace Payload

theorem sortOut_eq_ok_iff {o known others : Object} :
    Fields.sortOut fields [] o = .ok (known, others) ↔
      o.filter (owns ·.1) = known ∧ o.filter (!owns ·.1) = others ∧
        (∀ e ∈ o, ∀ f, fields.find? (·.answersTo e.1) = some f → f.check e.2 = .ok ()) ∧
        ∀ key, owns key = true → o.keys.count key ≤ 1 := by
  have taken : o.filterMap (Fields.underName? fields) = o.filter (owns ·.1) := by
    rw [← List.filterMap_eq_filter]
    exact List.filterMap_congr fun e _ => underName?_fields e
  have left : o.filter (fun e => (Fields.underName? fields e).isNone) = o.filter (!owns ·.1) := by
    refine List.filter_congr fun e _ => ?_
    rw [underName?_fields]
    cases owns e.1 <;> rfl
  rw [Fields.sortOut_eq_ok_iff, taken, left, ← Object.nodup_keys_filter_iff]
  constructor
  · rintro ⟨rfl, rfl, checked, once, -⟩
    exact ⟨rfl, rfl, checked, once⟩
  · rintro ⟨rfl, rfl, checked, once⟩
    exact ⟨rfl, rfl, checked, once, fun _ _ => List.not_mem_nil⟩

end Payload

namespace Scope

/-- What the session is read from: the first of its names comes before the second. -/
def sessionEntry (o : Object) : Option Json := (o.get? "run_id").or (o.get? sessionAlias)

theorem filterMap_underName? (o : Object) :
    o.filterMap (Fields.underName? fields) =
      (o.filter (owns ·.1)).map fun e => (ownName e.1, e.2) := by
  induction o with
  | nil => rfl
  | cons e rest ih =>
    rw [List.filterMap_cons, underName?_fields, ih]
    cases known : owns e.1 <;> simp [known]

theorem get?_run_id {o : Object} (oneName : "run_id" ∉ o.keys ∨ sessionAlias ∉ o.keys) :
    Object.get? (o.filterMap (Fields.underName? fields)) "run_id" = sessionEntry o := by
  induction o with
  | nil => rfl
  | cons e rest ih =>
    obtain ⟨key, v⟩ := e
    simp only [Object.keys_cons, List.mem_cons, not_or] at oneName
    have behind := ih (oneName.imp And.right And.right)
    by_cases first : key = "run_id"
    · subst first
      rfl
    by_cases second : key = sessionAlias
    · subst second
      have missing : Object.get? rest "run_id" = none := by
        rw [Object.get?_eq_none]
        exact (oneName.resolve_right fun new => new.1 rfl).2
      rw [List.filterMap_cons, underName?_fields]
      simp [sessionEntry, missing, first, owns, ownName]
    · have kept : Object.get? (((key, v) :: rest).filterMap (Fields.underName? fields)) "run_id" =
          Object.get? (rest.filterMap (Fields.underName? fields)) "run_id" := by
        rw [List.filterMap_cons, underName?_fields]
        cases owns key <;> simp [ownName, first, second]
      rw [kept, behind, sessionEntry, sessionEntry, Object.get?_cons, Object.get?_cons,
        if_neg first, if_neg second]

theorem nodup_underName? {o : Object} :
    (Object.keys (o.filterMap (Fields.underName? fields))).Nodup ↔
      (∀ key, owns key = true → o.keys.count key ≤ 1) ∧
        ("run_id" ∉ o.keys ∨ sessionAlias ∉ o.keys) := by
  have named : Object.keys (o.filterMap (Fields.underName? fields)) =
      (Object.keys (o.filter (owns ·.1))).map ownName := by
    rw [filterMap_underName?]
    simp [Object.keys]
  rw [named, ← Object.nodup_keys_filter_iff]
  have mem (key : String) (known : owns key = true) :
      key ∈ Object.keys (o.filter (owns ·.1)) ↔ key ∈ o.keys := by
    rw [← not_iff_not, ← Object.get?_eq_none, ← Object.get?_eq_none, Object.get?_filter o known]
  constructor
  · intro once
    refine ⟨once.of_map, ?_⟩
    by_contra both
    rw [not_or, not_not, not_not] at both
    have same := List.inj_on_of_nodup_map once ((mem _ rfl).mpr both.1) ((mem _ rfl).mpr both.2) rfl
    exact absurd same (by decide)
  · rintro ⟨once, oneName⟩
    refine once.map_on fun x hx y hy same => ?_
    have known {key : String} (h : key ∈ Object.keys (o.filter (owns ·.1))) : key ∈ o.keys :=
      ((List.filter_sublist).map Prod.fst).subset h
    -- only the two names of the session are read under one
    unfold ownName at same
    split at same <;> split at same
    · next first second => rw [first, second]
    · next second _ => exact (oneName.elim (· (same ▸ known hy)) (· (second ▸ known hx))).elim
    · next _ second => exact (oneName.elim (· (same ▸ known hx)) (· (second ▸ known hy))).elim
    · exact same

theorem check_eq {key : String} {f : Field}
    (answers : fields.find? (·.answersTo key) = some f) (v : Json) :
    f.check v = (fun _ => ()) <$> Decode.optional Decode.text v := by
  have member := List.mem_of_find?_eq_some answers
  simp only [fields, List.mem_cons, List.not_mem_nil, or_false] at member
  rcases member with rfl | rfl | rfl <;> rfl

theorem find?_eq_none_iff {key : String} :
    fields.find? (·.answersTo key) = none ↔ owns key = false := by
  have read := underName?_fields (key, .null)
  rw [Fields.underName?] at read
  cases answers : fields.find? (·.answersTo key) <;> cases known : owns key <;>
    simp [answers, known] at read ⊢

theorem sortOut_eq_ok_iff {o known others : Object} :
    Fields.sortOut fields [] o = .ok (known, others) ↔
      o.filterMap (Fields.underName? fields) = known ∧ o.filter (!owns ·.1) = others ∧
        (∀ e ∈ o, owns e.1 = true → ∃ name, Decode.optional Decode.text e.2 = .ok name) ∧
        (∀ key, owns key = true → o.keys.count key ≤ 1) ∧
        ("run_id" ∉ o.keys ∨ sessionAlias ∉ o.keys) := by
  have left : o.filter (fun e => (Fields.underName? fields e).isNone) = o.filter (!owns ·.1) := by
    refine List.filter_congr fun e _ => ?_
    rw [underName?_fields]
    cases owns e.1 <;> rfl
  have checked (e : String × Json) :
      (∀ f, fields.find? (·.answersTo e.1) = some f → f.check e.2 = .ok ()) ↔
        (owns e.1 = true → ∃ name, Decode.optional Decode.text e.2 = .ok name) := by
    cases answers : fields.find? (·.answersTo e.1) with
    | none => simp [find?_eq_none_iff.mp answers]
    | some f =>
      have known : owns e.1 = true := by
        rw [← Bool.not_eq_false, ← find?_eq_none_iff, answers]
        simp
      simp only [Option.some.injEq, forall_eq', check_eq answers, Fallible.map_eq_ok, and_true,
        known, true_implies]
  simp only [Fields.sortOut_eq_ok_iff, left, checked, List.not_mem_nil, not_false_eq_true,
    implies_true, and_true]
  constructor
  · rintro ⟨rfl, rfl, read, once⟩
    exact ⟨rfl, rfl, read, nodup_underName?.mp once⟩
  · rintro ⟨rfl, rfl, read, once⟩
    exact ⟨rfl, rfl, read, nodup_underName?.mpr once⟩

/-- Who is read as the owners of an object. -/
structure Reads (o : Object) (s : Scope) : Prop where
  once : ∀ key, owns key = true → o.keys.count key ≤ 1
  oneSession : "run_id" ∉ o.keys ∨ sessionAlias ∉ o.keys
  user : Fields.get? o "user_id" Decode.text = .ok s.user
  agent : Fields.get? o "agent_id" Decode.text = .ok s.agent
  session : Decode.optional Decode.text ((sessionEntry o).getD .null) = .ok s.session

theorem ofFields_eq_ok_iff {known : Object} {s : Scope} :
    ofFields known = .ok s ↔
      Fields.get? known "user_id" Decode.text = .ok s.user ∧
        Fields.get? known "agent_id" Decode.text = .ok s.agent ∧
        Fields.get? known "run_id" Decode.text = .ok s.session := by
  unfold ofFields
  simp only [Fallible.bind_eq_ok, pure, Except.pure, Except.ok.injEq]
  constructor
  · rintro ⟨user, readUser, agent, readAgent, session, readSession, rfl⟩
    exact ⟨readUser, readAgent, readSession⟩
  · rintro ⟨readUser, readAgent, readSession⟩
    exact ⟨_, readUser, _, readAgent, _, readSession, rfl⟩

theorem get?_underName? {o : Object} {name : String}
    (owner : name = "user_id" ∨ name = "agent_id") :
    Object.get? (o.filterMap (Fields.underName? fields)) name = o.get? name := by
  induction o with
  | nil => rfl
  | cons e rest ih =>
    obtain ⟨key, v⟩ := e
    rw [List.filterMap_cons, underName?_fields, Object.get?_cons]
    by_cases known : owns key = true
    · have same : ownName key = name ↔ key = name := by
        unfold ownName
        split
        · next second => rcases owner with rfl | rfl <;> simp [second, sessionAlias]
        · exact Iff.rfl
      simp only [known, if_true, Object.get?_cons, same, ih]
    · have other : key ≠ name := by
        rintro rfl
        rcases owner with rfl | rfl <;> exact known rfl
      simp only [known, Bool.false_eq_true, if_false, other, ih]

theorem Reads.entry {o : Object} {s : Scope} (h : Reads o s) {e : String × Json} (member : e ∈ o)
    (known : owns e.1 = true) : ∃ name, Decode.optional Decode.text e.2 = .ok name := by
  obtain ⟨key, v⟩ := e
  have found : o.get? key = some v := Object.get?_of_mem_of_count (h.once key known) member
  have named : key ∈ keys ∨ key = sessionAlias := by simpa [owns] using known
  simp only [keys, List.mem_cons, List.not_mem_nil, or_false] at named
  rcases named with (rfl | rfl | rfl) | rfl
  · exact ⟨_, by simpa [Fields.get?, Fields.get, found] using h.user⟩
  · exact ⟨_, by simpa [Fields.get?, Fields.get, found] using h.agent⟩
  · exact ⟨_, by simpa [sessionEntry, found] using h.session⟩
  · have missing : o.get? "run_id" = none :=
      Object.get?_eq_none.mpr (h.oneSession.resolve_right fun new => new (Object.mem_keys member))
    exact ⟨_, by simpa [sessionEntry, found, missing] using h.session⟩

theorem among_eq_ok_iff {o others : Object} {s : Scope} :
    among o = .ok (s, others) ↔ Reads o s ∧ others = o.filter (!owns ·.1) := by
  have filled (known : Object) : Fields.requireAll fields known = .ok () := rfl
  simp only [among, Fields.ofObject, Fallible.bind_eq_ok, filled, pure, Except.pure, Prod.exists,
    sortOut_eq_ok_iff, Except.ok.injEq, Prod.mk.injEq, ofFields_eq_ok_iff]
  constructor
  · rintro ⟨_, _, ⟨_, _, ⟨rfl, rfl, read, once, oneSession⟩, _, -, rfl, rfl⟩, _, ⟨user, agent,
      session⟩, rfl, rfl⟩
    rw [Fields.get?_of_same (get?_underName? (by simp))] at user agent
    rw [Fields.get?, Fields.get, get?_run_id oneSession] at session
    exact ⟨⟨once, oneSession, user, agent, session⟩, rfl⟩
  · rintro ⟨h, rfl⟩
    refine ⟨_, _, ⟨_, _, ⟨rfl, rfl, fun e member => h.entry member, h.once, h.oneSession⟩, (),
      trivial, rfl, rfl⟩, s, ⟨?_, ?_, ?_⟩, rfl, rfl⟩
    · exact (Fields.get?_of_same (get?_underName? (.inl rfl)) _).trans h.user
    · exact (Fields.get?_of_same (get?_underName? (.inr rfl)) _).trans h.agent
    · rw [Fields.get?, Fields.get, get?_run_id h.oneSession]
      exact h.session

theorem Reads.of_same {o o' : Object} {s : Scope} (h : Reads o s)
    (same : ∀ key, owns key = true → o'.get? key = o.get? key)
    (count : ∀ key, owns key = true → o'.keys.count key ≤ o.keys.count key) : Reads o' s where
  once key known := Nat.le_trans (count key known) (h.once key known)
  oneSession := by
    simpa only [← Object.get?_eq_none, same "run_id" rfl, same sessionAlias rfl] using h.oneSession
  user := (Fields.get?_of_same (same "user_id" rfl) _).trans h.user
  agent := (Fields.get?_of_same (same "agent_id" rfl) _).trans h.agent
  session := by
    rw [sessionEntry, same "run_id" rfl, same sessionAlias rfl]
    exact h.session

theorem reads_filter {o : Object} {s : Scope} {p : String → Bool}
    (kept : ∀ key, owns key = true → p key = true) : Reads (o.filter (p ·.1)) s ↔ Reads o s := by
  have value (key : String) (known : owns key = true) :
      Object.get? (o.filter (p ·.1)) key = o.get? key := Object.get?_filter o (kept key known)
  have count (key : String) (known : owns key = true) :
      (Object.keys (o.filter (p ·.1))).count key = o.keys.count key := by
    rw [Object.keys_filter, List.count_filter (kept key known)]
  exact ⟨fun h => h.of_same (fun key known => (value key known).symm) fun key known =>
      Nat.le_of_eq (count key known).symm,
    fun h => h.of_same value fun key known => Nat.le_of_eq (count key known)⟩

end Scope

namespace Payload

/-- What is read as the payload of an object. -/
structure Reads (o : Object) (p : Payload) : Prop where
  once : ∀ key, owns key = true → o.keys.count key ≤ 1
  content : Fields.get o "data" Decode.text = .ok p.content
  category : Fields.get o "category" Category.decode = .ok p.category
  expiresAt : Fields.get? o expiryKey Decode.int64 = .ok p.expiresAt
  scope : Scope.Reads o p.scope
  metadata : p.metadata = o.filter (!typed ·.1)

theorem Reads.check {o : Object} {p : Payload} (h : Reads o p) {e : String × Json} (member : e ∈ o)
    {f : Field} (answers : fields.find? (·.answersTo e.1) = some f) : f.check e.2 = .ok () := by
  obtain ⟨key, v⟩ := e
  have listed := List.mem_of_find?_eq_some answers
  have named := List.find?_some answers
  have value (known : owns key = true) : o.get? key = some v :=
    Object.get?_of_mem_of_count (h.once key known) member
  simp only [fields, List.mem_cons, List.not_mem_nil, or_false] at listed
  rcases listed with rfl | rfl | rfl
  · obtain rfl : key = "data" := by simpa [Field.answersTo, Field.required] using named
    have read := h.content
    rw [Fields.get, value rfl] at read
    exact Fallible.map_eq_ok.mpr ⟨_, read, rfl⟩
  · obtain rfl : key = "category" := by simpa [Field.answersTo, Field.required] using named
    have read := h.category
    rw [Fields.get, value rfl] at read
    exact Fallible.map_eq_ok.mpr ⟨_, read, rfl⟩
  · obtain rfl : key = expiryKey := by simpa [Field.answersTo, Field.optional] using named
    have read := h.expiresAt
    rw [Fields.get?, Fields.get, value rfl] at read
    exact Fallible.map_eq_ok.mpr ⟨_, read, rfl⟩

theorem contains_of_get {α : Type} {known : Object} {name : String} {decode : Decoder α} {a : α}
    (read : Fields.get known name decode = .ok a) (required : ∀ b, decode .null ≠ .ok b) :
    known.contains name = true := by
  unfold Fields.get at read
  cases found : known.get? name with
  | none => exact absurd (by simpa [found] using read) (required a)
  | some v => simp [Object.contains, found]

theorem filter_owns_owns (o : Object) :
    (o.filter (!owns ·.1)).filter (!Scope.owns ·.1) = o.filter (!typed ·.1) := by
  rw [List.filter_filter]
  refine List.filter_congr fun e _ => ?_
  rw [typed, Bool.not_or, Bool.and_comm]

/-- The entries an object is read from. -/
theorem ofObject_eq_ok_iff {o : Object} {p : Payload} : ofObject o = .ok p ↔ Reads o p := by
  have scopeKeys (key : String) (known : Scope.owns key = true) : (!owns key) = true := by
    have named : key ∈ Scope.keys ∨ key = sessionAlias := by simpa [Scope.owns] using known
    simp only [Scope.keys, List.mem_cons, List.not_mem_nil, or_false] at named
    rcases named with (rfl | rfl | rfl) | rfl <;> rfl
  have value (key : String) (known : owns key = true) :
      Object.get? (o.filter (owns ·.1)) key = o.get? key := Object.get?_filter o known
  have content : Fields.get (o.filter (owns ·.1)) "data" Decode.text =
      Fields.get o "data" Decode.text := Fields.get_of_same (value _ rfl) _
  have category : Fields.get (o.filter (owns ·.1)) "category" Category.decode =
      Fields.get o "category" Category.decode := Fields.get_of_same (value _ rfl) _
  have expiresAt : Fields.get? (o.filter (owns ·.1)) expiryKey Decode.int64 =
      Fields.get? o expiryKey Decode.int64 := Fields.get?_of_same (value _ rfl) _
  constructor
  · intro read
    obtain ⟨known, others, sorted, among, content', category', expiresAt'⟩ := ofObject_eq_ok read
    obtain ⟨rfl, rfl, -, once⟩ := sortOut_eq_ok_iff.mp sorted
    obtain ⟨scope, metadata⟩ := Scope.among_eq_ok_iff.mp among
    exact ⟨once, content.symm.trans content', category.symm.trans category',
      expiresAt.symm.trans expiresAt', (Scope.reads_filter scopeKeys).mp scope,
      metadata.trans (filter_owns_owns o)⟩
  · intro h
    have sorted := sortOut_eq_ok_iff.mpr ⟨rfl, rfl, fun e member f answers =>
      h.check member answers, h.once⟩
    have among := Scope.among_eq_ok_iff.mpr ⟨(Scope.reads_filter scopeKeys).mpr h.scope,
      h.metadata.trans (filter_owns_owns o).symm⟩
    rw [h.content] at content
    rw [h.category] at category
    rw [h.expiresAt] at expiresAt
    have present : Fields.requireAll fields (o.filter (owns ·.1)) = .ok () := by
      have data := contains_of_get content (by simp [Decode.text, Decode.mismatch])
      have kind := contains_of_get category
        (by simp [Category.decode, Decode.variant, Decode.mismatch])
      simp [Fields.requireAll, fields, Field.required, Field.optional, data, kind, pure,
        Except.pure]
    rw [ofObject, Fields.ofObject, sorted]
    simp only [Fallible.ok_bind, present, pure, Except.pure, among, content, category, expiresAt]

end Payload

end MemoryBank
