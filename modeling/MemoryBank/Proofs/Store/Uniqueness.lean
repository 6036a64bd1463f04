import Mathlib.Data.List.Induction
import MemoryBank.Proofs.Json.Equality
import MemoryBank.Proofs.Store.Catalogues
import MemoryBank.Proofs.Store.Identity
import MemoryBank.Proofs.Store.Modifiers

set_option autoImplicit false

/-!
When all documents of a store have ids, no two of one collection with equal values. An insert
compares ids as they are written, so it lets in a number that is equal to another by value alone;
an update guards the id only where it is set as a whole.
-/

namespace MemoryBank

namespace Document

/-- The ids of the two are equal for the store, in the one order or the other. -/
def sharesId (d e : Document) : Bool :=
  match d.get? idKey, e.get? idKey with
  | some a, some b => a.equalValue b || b.equalValue a
  | _, _ => false

/-- The ids are numbers, equal as doubles, but not the same number. -/
def twinIds (d e : Document) : Bool :=
  match d.get? idKey, e.get? idKey with
  | some (.number m), some (.number n) => m.toFloat == n.toFloat && !m.same n
  | _, _ => false

theorem sharesId_comm (d e : Document) : d.sharesId e = e.sharesId d := by
  unfold sharesId
  cases d.get? idKey <;> cases e.get? idKey <;> simp [Bool.or_comm]

theorem sharesId_congr {d d' : Document} (same : d'.get? idKey = d.get? idKey) (e : Document) :
    d'.sharesId e = d.sharesId e := by
  simp only [sharesId, same]

theorem sharesId_of_twinIds {d e : Document} (twins : d.twinIds e = true) :
    d.sharesId e = true := by
  unfold twinIds at twins
  split at twins
  · next m n left right =>
    rw [Bool.and_eq_true] at twins
    simp [sharesId, left, right, Json.equalValue, twins.1]
  · cases twins

/-- The comparison of an insert misses equal ids only if they are twins. -/
theorem twinIds_of_sharesId {d e : Document} (left : Object.WellFormed d)
    (right : Object.WellFormed e) (new : (d.get? idKey == e.get? idKey) = false)
    (shared : d.sharesId e = true) : d.twinIds e = true := by
  unfold sharesId at shared
  split at shared
  · next a b own other =>
    rw [own, other] at new
    have apart : a.same b = false := new
    have equal : a.equalValue b = true := by
      simpa [Json.equalValue_comm (right.of_get? other) (left.of_get? own)] using shared
    cases a with
    | number m =>
      cases b with
      | number n => simp_all [twinIds, Json.equalValue, Json.same]
      | null | bool _ | string _ | array _ | object _ => cases equal
    | null | bool _ | string _ | array _ | object _ => cases apart.symm.trans equal
  · cases shared

end Document

/-- All documents have ids, and no two the same for the store. -/
structure IdsApart (ds : List Document) : Prop where
  named : ∀ d ∈ ds, d.contains Document.idKey = true
  apart : ds.Pairwise fun d e => d.sharesId e = false

/-- All documents have ids, and any two with the same are twins. -/
structure NearlyApart (ds : List Document) : Prop where
  named : ∀ d ∈ ds, d.contains Document.idKey = true
  apart : ds.Pairwise fun d e => d.sharesId e = true → d.twinIds e = true

/-- What an insert adds to a collection. -/
structure Fresh (ds : List Document) (d : Document) : Prop where
  wellFormed : Object.WellFormed d
  named : d.contains Document.idKey = true
  new : ∀ e ∈ ds, (e.get? Document.idKey == d.get? Document.idKey) = false

namespace IdsApart

variable {ds before behind : List Document} {d : Document}

theorem nil : IdsApart [] := ⟨by simp, .nil⟩

theorem sublist (apart : IdsApart ds) {kept : List Document} (among : kept.Sublist ds) :
    IdsApart kept :=
  ⟨fun d member => apart.named d (among.mem member), apart.apart.sublist among⟩

theorem replace_iff (apart : IdsApart (before ++ d :: behind)) (d' : Document) :
    IdsApart (before ++ d' :: behind) ↔
      d'.contains Document.idKey = true ∧ ∀ e ∈ before ++ behind, d'.sharesId e = false := by
  -- the place of the document does not matter, so it can stand in front of the others
  have front (e : Document) : (before ++ e :: behind).Pairwise (·.sharesId · = false) ↔
      (e :: (before ++ behind)).Pairwise (·.sharesId · = false) :=
    List.perm_middle.pairwise_iff fun {a b} h => (Document.sharesId_comm b a).trans h
  have others := (List.pairwise_cons.mp ((front d).mp apart.apart)).2
  constructor
  · intro changed
    exact ⟨changed.named d' (by simp), (List.pairwise_cons.mp ((front d').mp changed.apart)).1⟩
  · rintro ⟨own, away⟩
    refine ⟨fun e member => ?_, (front d').mpr (List.pairwise_cons.mpr ⟨away, others⟩)⟩
    rcases List.mem_cons.mp (List.perm_middle.mem_iff.mp member) with rfl | other
    · exact own
    · exact apart.named e (List.perm_middle.mem_iff.mpr (List.mem_cons_of_mem _ other))

end IdsApart

namespace NearlyApart

variable {ds : List Document}

theorem add (nearly : NearlyApart ds) (valid : ∀ d ∈ ds, Object.WellFormed d) {d : Document}
    (fresh : Fresh ds d) : NearlyApart (ds ++ [d]) := by
  constructor
  · simpa [or_imp, forall_and] using ⟨nearly.named, fresh.named⟩
  · refine List.pairwise_append.mpr ⟨nearly.apart, List.pairwise_singleton _ _, ?_⟩
    intro e member last here
    obtain rfl := List.mem_singleton.mp here
    exact Document.twinIds_of_sharesId (valid e member) fresh.wellFormed (fresh.new e member)

theorem idsApart_iff (nearly : NearlyApart ds) :
    IdsApart ds ↔ ¬∃ d e, [d, e].Sublist ds ∧ d.twinIds e = true := by
  constructor
  · rintro apart ⟨d, e, among, twins⟩
    have away := List.pairwise_iff_forall_sublist.mp apart.apart among
    rw [Document.sharesId_of_twinIds twins] at away
    cases away
  · intro none
    refine ⟨nearly.named, List.pairwise_iff_forall_sublist.mpr fun {d e} among => ?_⟩
    rw [Bool.eq_false_iff]
    exact fun shared =>
      none ⟨d, e, among, List.pairwise_iff_forall_sublist.mp nearly.apart among shared⟩

end NearlyApart

theorem IdsApart.nearly {ds : List Document} (apart : IdsApart ds) : NearlyApart ds :=
  ⟨apart.named, apart.apart.imp fun away shared => by simp [away] at shared⟩

namespace Database

section

variable {P : String → List Document → Prop} {target : String} {db : Database}

theorem kept_put (start : ∀ name, P name (db.documents name)) {c : Collection}
    (own : P target c.documents) (name : String) : P name ((db.put target c).documents name) := by
  rw [documents_put]
  split
  · next here => exact here ▸ own
  · exact start name

theorem documents_identify (d : Document) (db : Database) :
    (identify d db).2.documents = db.documents := by
  unfold identify
  split <;> rfl

theorem fresh_identify {d : Document} (valid : Object.WellFormed d) {ds : List Document}
    (new : ¬(ds.any fun e => e.get? Document.idKey ==
      some (((identify d db).1.get? Document.idKey).getD .null)) = true) :
    Fresh ds (identify d db).1 := by
  simp only [List.any_eq_true, not_exists, not_and, Bool.not_eq_true] at new
  unfold identify at new ⊢
  cases known : d.contains Document.idKey with
  | true =>
    obtain ⟨id, found⟩ := Option.isSome_iff_exists.mp known
    simp only [known, if_true, found, Option.getD_some] at new ⊢
    exact ⟨valid, known, by rwa [found]⟩
  | false =>
    simp only [known, Bool.false_eq_true, if_false, Object.get?_insert_self,
      Option.getD_some] at new ⊢
    refine ⟨Object.wellFormed_insert valid ?_ _, by simp [Object.contains], ?_⟩
    · trivial
    · rwa [Object.get?_insert_self]

/-- What each document that passes the check keeps, an insert keeps. -/
theorem kept_insertAll (add : ∀ ds d, P target ds → Fresh ds d → P target (ds ++ [d]))
    {added : List Document} (valid : ∀ d ∈ added, Object.WellFormed d) (n : Nat)
    (start : ∀ name, P name (db.documents name)) (name : String) :
    P name ((insertAll target n added db).2.documents name) := by
  induction added generalizing n db with
  | nil => exact start name
  | cons d rest ih =>
    rw [List.forall_mem_cons] at valid
    rw [insertAll]
    simp only
    rw [← documents_identify d db] at start
    split
    · exact start name
    · next new =>
      exact ih valid.2 _ (kept_put start (add _ _ (start target) (fresh_identify valid.1 new)))

end

/-- The update selects this document, with these in front of it and behind it. -/
structure Selects (filter : Document) (ds before : List Document) (d : Document)
    (behind : List Document) : Prop where
  split : ds = before ++ d :: behind
  passed : ∀ e ∈ before, e.satisfies filter = .ok false
  selected : d.satisfies filter = .ok true

theorem Selects.updateFirst_eq {filter d : Document} {ds before behind : List Document}
    (selects : Selects filter ds before d behind) (change : Document) :
    Database.updateFirst filter change ds =
      ((fun _ => ⟨1, if (Update.apply change d).2.same d then 0 else 1⟩) <$>
          (Update.apply change d).1,
        before ++ (Update.apply change d).2 :: behind) := by
  obtain ⟨rfl, passed, selected⟩ := selects
  induction before with
  | nil => simp only [List.nil_append, Database.updateFirst, selected]
  | cons e rest ih =>
    rw [List.forall_mem_cons] at passed
    simp only [List.cons_append, Database.updateFirst, passed.1, ih passed.2]

theorem Selects.updateFirst {filter d : Document} {ds before behind : List Document}
    (selects : Selects filter ds before d behind) (change : Document) :
    (updateFirst filter change ds).2 = before ++ (Update.apply change d).2 :: behind := by
  rw [selects.updateFirst_eq]

theorem updateFirst_eq_or_selects (filter change : Document) (ds : List Document) :
    (updateFirst filter change ds).2 = ds ∨
      ∃ before d behind, Selects filter ds before d behind := by
  induction ds with
  | nil => exact .inl rfl
  | cons e rest ih =>
    rw [updateFirst]
    cases judged : e.satisfies filter with
    | error cause => exact .inl rfl
    | ok selected =>
      cases selected with
      | true => exact .inr ⟨[], e, rest, rfl, by simp, judged⟩
      | false =>
        refine ih.imp (congrArg (e :: ·)) ?_
        rintro ⟨before, d, behind, rfl, passed, selected⟩
        exact ⟨e :: before, d, behind, rfl, List.forall_mem_cons.mpr ⟨judged, passed⟩, selected⟩

theorem wellFormed_updateFirst {change : Document} (valid : Object.WellFormed change)
    (filter : Document) {ds : List Document} (own : ∀ d ∈ ds, Object.WellFormed d) :
    ∀ d ∈ (updateFirst filter change ds).2, Object.WellFormed d := by
  rcases updateFirst_eq_or_selects filter change ds with same | ⟨before, d, behind, selects⟩
  · rwa [same]
  · rw [selects.updateFirst]
    obtain rfl := selects.split
    simp only [List.forall_mem_append, List.forall_mem_cons] at own ⊢
    exact ⟨own.1, Update.wellFormed_apply valid own.2.1, own.2.2⟩

end Database

namespace Call

/-- What the call puts in or changes with is well-formed. -/
def WellFormed : Call → Prop
  | insert _ ds => ∀ d ∈ ds, Object.WellFormed d
  | update _ _ change => Object.WellFormed change
  | _ => True

/-- The call puts a twin in, or it reaches the id of the document that it changes, which then has
none or one that another document has. -/
def Clashes (c : Call) (db : Database) : Prop :=
  match c with
  | insert name _ => ∃ d e,
      [d, e].Sublist ((DocumentStore.perform c db).2.documents name) ∧ d.twinIds e = true
  | update name filter change => ∃ before d behind,
      Database.Selects filter (db.documents name) before d behind ∧
        Update.reachesId change d = true ∧
          ((Update.apply change d).2.contains Document.idKey = false ∨
            ∃ e ∈ before ++ behind, (Update.apply change d).2.sharesId e = true)
  | _ => False

end Call

namespace Database

/-- The documents of every collection are well-formed. -/
def WellFormed (db : Database) : Prop := ∀ name, ∀ d ∈ db.documents name, Object.WellFormed d

/-- The documents of every collection are told apart by their ids. -/
def IdsApart (db : Database) : Prop := ∀ name, MemoryBank.IdsApart (db.documents name)

variable {db : Database}

theorem documents_sublist (db : Database) {c : Call} (inserts : ∀ name ds, c ≠ .insert name ds)
    (updates : ∀ name filter change, c ≠ .update name filter change) (name : String) :
    ((execute c db).2.documents name).Sublist (db.documents name) := by
  have put {target : String} {c : Collection} {ds : List Document}
      (found : db.find? target = some c) (among : ds.Sublist c.documents) :
      ((db.put target { c with documents := ds }).documents name).Sublist (db.documents name) := by
    rw [documents_put]
    split
    · next here => rwa [here, documents_of_find? found]
    · exact .refl _
  cases c with
  | collectionNames | find _ _ _ | findOne _ _ | aggregate _ _ => exact .refl _
  | createCollection target =>
    exact ((frame_put (c := db.opened target) rfl).documents name) ▸ .refl _
  | dropCollection dropped =>
    rw [documents_dropCollection]
    split
    · exact List.nil_sublist _
    · exact .refl _
  | command command => exact ((frame_runCommand command db).documents name) ▸ .refl _
  | insert target ds => exact absurd rfl (inserts target ds)
  | update target filter change => exact absurd rfl (updates target filter change)
  | deleteOne target filter =>
    simp only [execute, deleteOne]
    cases found : db.find? target with
    | none => exact .refl _
    | some c => exact put found (deleteFirst_sublist filter c.documents)
  | deleteMany target filter =>
    simp only [execute, deleteMany]
    cases found : db.find? target with
    | none => exact .refl _
    | some c =>
      simp only
      cases deleted : deleteSelected filter c.documents with
      | error cause => exact put found (List.nil_sublist _)
      | ok r => exact put found (deleteSelected_sublist deleted)

theorem wellFormed_execute {c : Call} (valid : c.WellFormed) (own : db.WellFormed) :
    (execute c db).2.WellFormed := by
  cases c with
  | insert target ds =>
    apply kept_insertAll (P := fun _ ds => ∀ d ∈ ds, Object.WellFormed d) ?_ valid
    · exact kept_put (P := fun _ ds => ∀ d ∈ ds, Object.WellFormed d) own (own target)
    · intro ds d members fresh
      simpa [or_imp, forall_and] using ⟨members, fresh.wellFormed⟩
  | update target filter change =>
    simp only [execute, update]
    cases found : db.find? target with
    | none => exact own
    | some c =>
      have members := documents_of_find? found ▸ own target
      exact kept_put (P := fun _ ds => ∀ d ∈ ds, Object.WellFormed d) own
        (wellFormed_updateFirst valid filter members)
  | _ =>
    intro name d member
    exact own name d ((documents_sublist db (by simp) (by simp) name).mem member)

theorem idsApart_insert_iff {target : String} {added : List Document}
    (valid : ∀ d ∈ added, Object.WellFormed d) (own : db.WellFormed) (apart : db.IdsApart) :
    (insert target added db).2.IdsApart ↔
      ¬∃ d e, [d, e].Sublist ((insert target added db).2.documents target) ∧
        d.twinIds e = true := by
  -- the collections that are not written to stay apart, the one that is stays nearly so
  let P (name : String) (ds : List Document) : Prop :=
    (∀ d ∈ ds, Object.WellFormed d) ∧ NearlyApart ds ∧ (name ≠ target → MemoryBank.IdsApart ds)
  have start (name : String) : P name (db.documents name) :=
    ⟨own name, (apart name).nearly, fun _ => apart name⟩
  have add (ds : List Document) (d : Document) (before : P target ds) (fresh : Fresh ds d) :
      P target (ds ++ [d]) := by
    refine ⟨?_, before.2.1.add before.1 fresh, fun away => absurd rfl away⟩
    simpa [or_imp, forall_and] using ⟨before.1, fresh.wellFormed⟩
  have after := kept_insertAll add valid 0 (kept_put (c := db.opened target) start (start target))
  refine Iff.trans ⟨fun all => all target, fun one name => ?_⟩ (after target).2.1.idsApart_iff
  by_cases here : name = target
  · exact here ▸ one
  · exact (after name).2.2 here

theorem idsApart_put_iff (apart : db.IdsApart) {target : String} {c : Collection} :
    (db.put target c).IdsApart ↔ MemoryBank.IdsApart c.documents := by
  constructor
  · intro all
    simpa [documents_put] using all target
  · exact fun one => kept_put (P := fun _ => MemoryBank.IdsApart) apart one

theorem idsApart_update_iff {target : String} {filter change : Document}
    (valid : Object.WellFormed change) (own : db.WellFormed) (apart : db.IdsApart) :
    (update target filter change db).2.IdsApart ↔
      ¬(Call.update target filter change).Clashes db := by
  unfold update
  cases found : db.find? target with
  | none =>
    refine iff_of_true apart ?_
    rintro ⟨before, d, behind, selects, -⟩
    simpa [documents_of_missing found] using selects.split
  | some c =>
    have here := documents_of_find? found
    refine (idsApart_put_iff apart).trans ?_
    constructor
    · rintro changed ⟨before, d, behind, selects, -, clash⟩
      rw [here] at selects
      have old : MemoryBank.IdsApart (before ++ d :: behind) :=
        selects.split ▸ here ▸ apart target
      simp only [selects.updateFirst, old.replace_iff] at changed
      rcases clash with unnamed | ⟨e, member, shared⟩
      · simp [changed.1] at unnamed
      · simp [changed.2 e member] at shared
    · intro fine
      rcases updateFirst_eq_or_selects filter change c.documents with
        same | ⟨before, d, behind, selects⟩
      · simp only [same]
        exact here ▸ apart target
      · have old : MemoryBank.IdsApart (before ++ d :: behind) :=
          selects.split ▸ here ▸ apart target
        have valid' : Object.WellFormed d := own target d (by simp [here, selects.split])
        have keeps := (old.replace_iff d).mp old
        simp only [selects.updateFirst, old.replace_iff]
        cases reaches : Update.reachesId change d with
        | true =>
          have kept := fun clash => fine ⟨before, d, behind, here ▸ selects, reaches, clash⟩
          simpa using kept
        | false =>
          have same := Update.get?_id_apply valid valid' keeps.1 reaches
          exact ⟨by simpa [Object.contains, same] using keeps.1,
            fun e member => (Document.sharesId_congr same e).trans (keeps.2 e member)⟩

/-- A call keeps the documents apart exactly if it does not clash with them. -/
theorem idsApart_perform_iff {c : Call} (valid : c.WellFormed) (online : db.offline = false)
    (own : db.WellFormed) (apart : db.IdsApart) :
    (DocumentStore.perform c db).2.IdsApart ↔ ¬c.Clashes db := by
  rw [perform_of_online online]
  cases c with
  | insert target added =>
    unfold Call.Clashes
    rw [perform_of_online online]
    exact @idsApart_insert_iff (arrive _ db) target added valid own apart
  | update target filter change =>
    exact @idsApart_update_iff (arrive _ db) target filter change valid own apart
  | _ =>
    refine iff_of_true (fun name => ?_) id
    exact (apart name).sublist (documents_sublist (arrive _ db) (by simp) (by simp) name)

/-- The store after these calls, one after another, empty at first. -/
def after (calls : List Call) : Database :=
  calls.foldl (fun db c => (DocumentStore.perform c db).2) .empty

theorem after_append (calls : List Call) (c : Call) :
    after (calls ++ [c]) = (DocumentStore.perform c (after calls)).2 := by
  simp [after]

theorem wellFormed_after {calls : List Call} (valid : ∀ c ∈ calls, c.WellFormed) :
    (after calls).offline = false ∧ (after calls).WellFormed := by
  induction calls using List.reverseRecOn with
  | nil => exact ⟨rfl, fun name d none => by cases none⟩
  | append_singleton calls c ih =>
    simp only [List.forall_mem_append, List.forall_mem_singleton] at valid
    obtain ⟨online, own⟩ := ih valid.1
    rw [after_append]
    refine ⟨(perform_offline c _).trans online, ?_⟩
    rw [perform_of_online online]
    exact @wellFormed_execute (arrive c _) c valid.2 own

/-- In every state of a run all documents have ids, no two of a collection equal, exactly if no call
of the run clashes with what it finds. -/
theorem idsApart_after_iff {calls : List Call} (valid : ∀ c ∈ calls, c.WellFormed) :
    (∀ n, (after (calls.take n)).IdsApart) ↔
      ∀ n (c : Call), calls[n]? = some c → ¬c.Clashes (after (calls.take n)) := by
  have reached (n : Nat) : (after (calls.take n)).offline = false ∧
      (after (calls.take n)).WellFormed :=
    wellFormed_after fun c member => valid c (List.mem_of_mem_take member)
  have step (n : Nat) {c : Call} (here : calls[n]? = some c)
      (apart : (after (calls.take n)).IdsApart) :
      (after (calls.take (n + 1))).IdsApart ↔ ¬c.Clashes (after (calls.take n)) := by
    rw [List.take_add_one, here, Option.toList_some, after_append]
    exact idsApart_perform_iff (valid c (List.mem_of_getElem? here)) (reached n).1 (reached n).2
      apart
  constructor
  · exact fun apart n c here => (step n here (apart n)).mp (apart (n + 1))
  · intro fine n
    induction n with
    | zero => exact fun name => .nil
    | succ n ih =>
      cases here : calls[n]? with
      | none => simpa [List.take_add_one, here] using ih
      | some c => exact (step n here ih).mpr (fine n c here)

/-- One document is put in and then changed. -/
def changing (change : Document) : List Call :=
  [.insert "memories" [Document.withId "a"], .update "memories" [] change]

theorem idsApart_after_set :
    (∀ c ∈ changing [("$set", .object [("n", .null)])], c.WellFormed) ∧
      ∀ n, (after ((changing [("$set", .object [("n", .null)])]).take n)).IdsApart := by
  have valid : ∀ c ∈ changing [("$set", .object [("n", .null)])], c.WellFormed := by
    simp [changing, Call.WellFormed, Object.WellFormed, Json.WellFormed, Json.WellFormedEntries,
      Document.withId]
  refine ⟨valid, (idsApart_after_iff valid).mpr ?_⟩
  rintro (_ | _ | n) c here
  · obtain rfl := Option.some.inj here
    rintro ⟨d, e, among, -⟩
    have short : 2 ≤ 1 := among.length_le
    simp at short
  · obtain rfl := Option.some.inj here
    rintro ⟨before, d, behind, selects, reaches, -⟩
    have listed : [Document.withId "a"] = before ++ d :: behind := selects.split
    have member : d ∈ [Document.withId "a"] := by simp [listed]
    obtain rfl := List.mem_singleton.mp member
    cases reaches
  · cases here

/-- An id can be removed, changed from within, and met by a number of the same value. -/
theorem not_idsApart_after_changes :
    ¬(after (changing [("$unset", .object [("_id", .string "")])])).IdsApart ∧
      ¬(after [.insert "memories" [[("_id", .object [("x", .ofInt 1)])],
          [("_id", .object [("x", .ofInt 2)])]],
        .update "memories" [] [("$set", .object [("_id.x", .ofInt 2)])]]).IdsApart ∧
      ¬(after [.insert "memories" [[("_id", .number (.int 1))],
        [("_id", .number (.float 1.0))]]]).IdsApart := by
  refine ⟨fun all => ?_, fun all => ?_, fun all => ?_⟩
  · cases (all "memories").named [] (List.mem_singleton.mpr rfl)
  · cases List.rel_of_pairwise_cons (all "memories").apart (List.mem_singleton.mpr rfl)
  · cases List.rel_of_pairwise_cons (all "memories").apart (List.mem_singleton.mpr rfl)

end Database

end MemoryBank
