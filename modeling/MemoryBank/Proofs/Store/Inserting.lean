import MemoryBank.Proofs.Filter.Conditions
import MemoryBank.Proofs.Json.Equality
import MemoryBank.Proofs.Store.Modifiers
import MemoryBank.Proofs.Store.Places

set_option autoImplicit false

/-!
What an insert adds: the documents go in one by one, up to the first whose id is taken. Main
statement: these are the longest part, from the front on, that can go in at all, and to repeat the
call adds nothing more.
-/

namespace MemoryBank

/-- The two have the same id, as an insert compares ids: `1` and `1.0` are not the same. -/
def Document.blocks (d e : Document) : Bool := d.get? idKey == e.get? idKey

/-- No document has the id of a stored one, or that of one in front of it. -/
structure Newcomers (stored ds : List Document) : Prop where
  apart : ds.Pairwise fun d e => d.blocks e = false
  new : ∀ d ∈ ds, ∀ e ∈ stored, e.blocks d = false

/-- The longest front part of the documents that are newcomers. -/
structure Admitted (stored ds taken : List Document) : Prop where
  front : taken <+: ds
  newcomers : Newcomers stored taken
  longest : ∀ more, more <+: ds → Newcomers stored more → more <+: taken

variable {stored ds taken rest : List Document} {d : Document}

theorem newcomers_nil (stored : List Document) : Newcomers stored [] := ⟨.nil, by simp⟩

theorem newcomers_cons :
    Newcomers stored (d :: rest) ↔
      (∀ e ∈ stored, e.blocks d = false) ∧ Newcomers (stored ++ [d]) rest := by
  constructor
  · rintro ⟨apart, new⟩
    obtain ⟨behind, apart⟩ := List.pairwise_cons.mp apart
    rw [List.forall_mem_cons] at new
    refine ⟨new.1, apart, fun later member e known => ?_⟩
    rcases List.mem_append.mp known with old | last
    · exact new.2 later member e old
    · obtain rfl := List.mem_singleton.mp last
      exact behind later member
  · rintro ⟨first, apart, new⟩
    refine ⟨List.pairwise_cons.mpr ⟨fun later member => ?_, apart⟩, ?_⟩
    · exact new later member d (List.mem_append_right _ (List.mem_singleton_self d))
    · refine List.forall_mem_cons.mpr ⟨first, fun later member e old => ?_⟩
      exact new later member e (List.mem_append_left _ old)

theorem admitted_nil (stored : List Document) : Admitted stored [] [] :=
  ⟨List.prefix_rfl, newcomers_nil stored, fun _ among _ => among⟩

theorem Admitted.cons (free : ∀ e ∈ stored, e.blocks d = false)
    (behind : Admitted (stored ++ [d]) rest taken) : Admitted stored (d :: rest) (d :: taken) where
  front := List.cons_prefix_cons.mpr ⟨rfl, behind.front⟩
  newcomers := newcomers_cons.mpr ⟨free, behind.newcomers⟩
  longest more among newcomers := by
    cases more with
    | nil => exact List.nil_prefix
    | cons first others =>
      obtain ⟨rfl, later⟩ := List.cons_prefix_cons.mp among
      exact List.cons_prefix_cons.mpr
        ⟨rfl, behind.longest others later (newcomers_cons.mp newcomers).2⟩

theorem admitted_of_blocked {e : Document} (known : e ∈ stored) (blocked : e.blocks d = true)
    (rest : List Document) : Admitted stored (d :: rest) [] where
  front := List.nil_prefix
  newcomers := newcomers_nil stored
  longest more among newcomers := by
    cases more with
    | nil => exact List.prefix_rfl
    | cons first others =>
      obtain ⟨rfl, -⟩ := List.cons_prefix_cons.mp among
      cases blocked.symm.trans ((newcomers_cons.mp newcomers).1 e known)

theorem Document.blocks_self (valid : Object.WellFormed d) (named : d.contains idKey = true) :
    d.blocks d = true := by
  obtain ⟨id, own⟩ := Option.isSome_iff_exists.mp named
  unfold blocks
  rw [own]
  exact Json.same_refl id (valid.of_get? own)

/-- Once the documents that can go in are stored, the first of all is blocked by itself or by what
blocked it before. -/
theorem Admitted.again (admitted : Admitted stored ds taken)
    (valid : ∀ d ∈ ds, Object.WellFormed d)
    (named : ∀ d ∈ ds, Object.contains d Document.idKey = true) :
    Admitted (stored ++ taken) ds [] := by
  cases ds with
  | nil => exact admitted_nil _
  | cons first rest =>
    cases taken with
    | cons own others =>
      obtain ⟨rfl, -⟩ := List.cons_prefix_cons.mp admitted.front
      rw [List.forall_mem_cons] at valid named
      exact admitted_of_blocked (List.mem_append_right _ List.mem_cons_self)
        (Document.blocks_self valid.1 named.1) rest
    | nil =>
      have blocked : ¬∀ e ∈ stored, e.blocks first = false := fun free =>
        List.not_mem_nil ((admitted.longest [first] (by simp)
          (newcomers_cons.mpr ⟨free, newcomers_nil _⟩)).subset List.mem_cons_self)
      push Not at blocked
      obtain ⟨e, known, blocks⟩ := blocked
      exact admitted_of_blocked (List.mem_append_left _ known) (by simpa using blocks) rest

namespace Database

variable {db : Database} {name : String}

/-- The answer to an insert that stops in front of these documents. -/
def stopped (name : String) (added : Nat) : List Document → Result Nat
  | [] => .ok added
  | d :: _ => .error (.store (.duplicateId name ((d.get? Document.idKey).getD .null)))

theorem put_put (db : Database) (name : String) (c c' : Collection) :
    (db.put name c).put name c' = db.put name c' := by
  simp only [put, NameMap.insert_insert]

theorem insertAll_put (named : ∀ d ∈ ds, Object.contains d Document.idKey = true) (n : Nat)
    (db : Database) (name : String) (c : Collection) :
    ∃ taken rest, ds = taken ++ rest ∧ Admitted c.documents ds taken ∧
      insertAll name n ds (db.put name c) = (stopped name (n + taken.length) rest,
        db.put name { c with documents := c.documents ++ taken }) := by
  -- on the documents that are left: each that goes in is one more that the next are held against
  induction ds generalizing n c with
  | nil => exact ⟨[], [], rfl, admitted_nil _, by rw [List.append_nil]; rfl⟩
  | cons d rest ih =>
    rw [List.forall_mem_cons] at named
    obtain ⟨id, own⟩ := Option.isSome_iff_exists.mp named.1
    rw [insertAll, identify_of_id named.1]
    simp only [own, Option.getD_some, opened_put, if_true]
    by_cases blocked : (c.documents.any fun e => e.get? Document.idKey == some id) = true
    · rw [if_pos blocked]
      obtain ⟨e, known, blocks⟩ := List.any_eq_true.mp blocked
      have blocks : e.blocks d = true := by rwa [Document.blocks, own]
      refine ⟨[], d :: rest, rfl, admitted_of_blocked known blocks rest, ?_⟩
      rw [stopped, own, List.append_nil]
      rfl
    · rw [if_neg blocked, put_put]
      obtain ⟨taken, left, split, admitted, inserted⟩ :=
        ih named.2 (n + 1) { c with documents := c.documents ++ [d] }
      have free : ∀ e ∈ c.documents, e.blocks d = false := by
        intro e known
        refine Bool.eq_false_iff.mpr fun blocks => blocked (List.any_eq_true.mpr ⟨e, known, ?_⟩)
        rwa [Document.blocks, own] at blocks
      refine ⟨d :: taken, left, by rw [split, List.cons_append], admitted.cons free, ?_⟩
      rw [inserted, List.append_assoc, List.length_cons, Nat.add_assoc, Nat.add_comm 1]
      rfl

theorem perform_insert_eq (online : db.offline = false)
    (named : ∀ d ∈ ds, Object.contains d Document.idKey = true) (name : String) :
    ∃ taken rest, ds = taken ++ rest ∧ Admitted (db.documents name) ds taken ∧
      DocumentStore.perform (.insert name ds) db = (stopped name taken.length rest,
        (arrive (.insert name ds) db).put name ⟨db.documents name ++ taken, db.indexes name⟩) := by
  obtain ⟨taken, rest, split, admitted, inserted⟩ :=
    insertAll_put named 0 (arrive (.insert name ds) db) name (db.opened name)
  rw [Nat.zero_add] at inserted
  exact ⟨taken, rest, split, admitted, (perform_of_online online _).trans inserted⟩

/-- The store after the same insert has been asked for so many times. -/
def insertedAgain (name : String) (ds : List Document) (times : Nat) (db : Database) : Database :=
  (fun db => (DocumentStore.perform (.insert name ds) db).2)^[times] db

/-- Nothing is added to a collection where nothing can go in. -/
theorem insertedAgain_of_full (named : ∀ d ∈ ds, Object.contains d Document.idKey = true)
    (times : Nat) {db : Database} (online : db.offline = false) {c : Collection}
    (here : db.find? name = some c) (full : Admitted c.documents ds []) (other : String) :
    (insertedAgain name ds times db).find? other = db.find? other := by
  induction times generalizing db with
  | zero => rfl
  | succ times ih =>
    obtain ⟨taken, rest, -, admitted, performed⟩ := perform_insert_eq online named name
    rw [documents_of_find? here] at admitted
    -- what one more call adds could have gone in before, so it adds nothing
    obtain rfl := List.prefix_nil.mp (full.longest taken admitted.front admitted.newcomers)
    have kept (other : String) :
        (DocumentStore.perform (.insert name ds) db).2.find? other = db.find? other := by
      rw [performed, List.append_nil, documents_of_find? here, indexes_of_find? here]
      refine (NameMap.get?_insert ..).trans ?_
      split
      · next same => rw [same, here]
      · rfl
    have still := (perform_offline (.insert name ds) db).trans online
    exact (ih still ((kept name).trans here)).trans (kept other)

/-- An insert into a store that can be reached adds the longest front part of its documents that has
no id twice and none that is stored, and changes nothing else. It is through if these are all;
otherwise it is refused for the document behind them. To repeat it, however often, changes no
collection. -/
theorem insert_adds_longest (online : db.offline = false) (name : String)
    (valid : ∀ d ∈ ds, Object.WellFormed d)
    (named : ∀ d ∈ ds, Object.contains d Document.idKey = true) :
    ∃ taken answer db', DocumentStore.perform (.insert name ds) db = (answer, db') ∧
      Admitted (db.documents name) ds taken ∧
      db'.documents name = db.documents name ++ taken ∧ db'.indexes name = db.indexes name ∧
      (∀ other, other ≠ name → db'.find? other = db.find? other) ∧
      (taken = ds ∧ answer = .ok ds.length ∨ ∃ d rest, ds = taken ++ d :: rest ∧
        answer = .error (.store (.duplicateId name ((d.get? Document.idKey).getD .null)))) ∧
      ∀ times other, (insertedAgain name ds times db').find? other = db'.find? other := by
  obtain ⟨taken, rest, split, admitted, performed⟩ := perform_insert_eq online named name
  have here : (DocumentStore.perform (.insert name ds) db).2.find? name =
      some ⟨db.documents name ++ taken, db.indexes name⟩ := by
    rw [performed]
    exact find?_put_self ..
  have indexes := indexes_of_find? here
  refine ⟨taken, (DocumentStore.perform (.insert name ds) db).1,
    (DocumentStore.perform (.insert name ds) db).2, rfl, admitted, documents_of_find? here,
    indexes, fun other away => ?_, ?_, fun times other => ?_⟩
  · rw [performed]
    exact (NameMap.get?_insert ..).trans (if_neg away)
  · rw [performed]
    cases rest with
    | nil =>
      rw [List.append_nil] at split
      exact .inl ⟨split.symm, by rw [split, stopped]⟩
    | cons d behind => exact .inr ⟨d, behind, split, rfl⟩
  · have still := (perform_offline (.insert name ds) db).trans online
    exact insertedAgain_of_full named times still here (admitted.again valid named) other

/-- A store with one document. -/
def oneNamed (name id : String) : Database := Database.empty.put name ⟨[Document.withId id], []⟩

theorem insert_adds_longest_doubled :
    (oneNamed "memories" "c").offline = false ∧
      (∀ d ∈ ["a", "b", "a", "d"].map Document.withId, Object.WellFormed d) ∧
      (∀ d ∈ ["a", "b", "a", "d"].map Document.withId, d.contains Document.idKey = true) ∧
      Admitted [Document.withId "c"] (["a", "b", "a", "d"].map Document.withId)
        (["a", "b"].map Document.withId) ∧
      ∀ times, (insertedAgain "memories" (["a", "b", "a", "d"].map Document.withId) (times + 1)
        (oneNamed "memories" "c")).documents "memories" = ["c", "a", "b"].map Document.withId := by
  have valid : ∀ d ∈ ["a", "b", "a", "d"].map Document.withId, Object.WellFormed d := by
    simp [Object.WellFormed, Json.WellFormed, Json.WellFormedEntries, Document.withId]
  have named : ∀ d ∈ ["a", "b", "a", "d"].map Document.withId,
      d.contains Document.idKey = true := by decide
  have online : (oneNamed "memories" "c").offline = false := rfl
  obtain ⟨taken, answer, db', performed, admitted, documents, -, -, -, again⟩ :=
    insert_adds_longest online "memories" valid named
  obtain rfl : (DocumentStore.perform (.insert "memories" (["a", "b", "a", "d"].map
    Document.withId)) (oneNamed "memories" "c")).2 = db' := by rw [performed]
  have added : [Document.withId "c"] ++ ["a", "b"].map Document.withId =
      [Document.withId "c"] ++ taken := documents
  obtain rfl := List.append_cancel_left added
  refine ⟨online, valid, named, admitted, fun times => ?_⟩
  rw [Database.documents, Database.opened]
  exact congrArg (fun c => (c.getD Collection.empty).documents) (again times "memories")

end Database

end MemoryBank
