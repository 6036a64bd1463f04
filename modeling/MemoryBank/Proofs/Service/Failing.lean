import MemoryBank.Proofs.Service.Batches
import MemoryBank.Proofs.Service.Deeds

set_option autoImplicit false

/-!
What a failed request of a memory service leaves behind. An addition or a deletion that fails has
changed no document. An update writes before it reads the memory again, and what cannot be read
again could not be read before.
-/

namespace MemoryBank

namespace Database

theorem deleteFirst_eq_one_or (filter : Document) (ds : List Document) :
    (deleteFirst filter ds).1 = .ok 1 ∨ (deleteFirst filter ds).2 = ds := by
  induction ds with
  | nil => exact .inr rfl
  | cons d rest ih =>
    rw [deleteFirst]
    cases d.satisfies filter with
    | error cause => exact .inr rfl
    | ok selected =>
      cases selected with
      | true => exact .inl rfl
      | false => exact ih.imp_right (congrArg (d :: ·))

theorem frame_deleteOne {name : String} {filter : Document} {db : Database}
    (none : (deleteOne name filter db).1 ≠ .ok 1) : Frame db (deleteOne name filter db).2 := by
  unfold deleteOne at none ⊢
  cases found : db.find? name with
  | none => exact .refl db
  | some c =>
    simp only [found] at none ⊢
    have same := (deleteFirst_eq_one_or filter c.documents).resolve_left none
    rw [same]
    exact frame_put (documents_of_find? found).symm

theorem frame_insert_failed {name : String} {new : Document} {db : Database} {cause : Failure}
    (named : new.contains Document.idKey = true)
    (failed : (insert name [new] db).1 = .error cause) : Frame db (insert name [new] db).2 := by
  unfold insert at failed ⊢
  rw [insertAll, identify_of_id named] at failed ⊢
  simp only [insertAll] at failed ⊢
  split at failed
  · next taken =>
    rw [if_pos taken]
    exact frame_put rfl
  · cases failed

theorem execute_update_fst (name : String) (filter change : Document) (db : Database) :
    (execute (.update name filter change) db).1 =
      (updateFirst filter change (db.documents name)).1 := by
  cases found : db.find? name with
  | none => simp only [execute, update, found, documents_of_missing found, updateFirst]
  | some c => simp only [execute, update, found, documents_of_find? found]

theorem Selects.matched {filter d d' : Document} {ds before behind : List Document}
    (selects : Selects filter ds before d behind) {change : Document}
    (changed : Update.apply change d = (.ok (), d')) :
    ∃ modified, (Database.updateFirst filter change ds).1 = .ok ⟨1, modified⟩ := by
  rw [selects.updateFirst_eq, changed]
  exact ⟨_, rfl⟩

theorem selects_withId {id : String} {ds : List Document} {d : Document}
    (found : ds.find? (Document.hasId id) = some d) :
    ∃ before behind, Selects (Document.withId id) ds before d behind := by
  obtain ⟨own, before, behind, split, others⟩ := List.find?_eq_some_iff_append.mp found
  refine ⟨before, behind, split, fun e member => ?_, ?_⟩
  · rw [Document.satisfies_withId]
    exact congrArg Except.ok (by simpa using others e member)
  · rw [Document.satisfies_withId, own]

theorem updateFirst_eq_none {id : String} {ds : List Document}
    (none : ds.find? (Document.hasId id) = none) (change : Document) :
    updateFirst (Document.withId id) change ds = (.ok ⟨0, 0⟩, ds) := by
  induction ds with
  | nil => rfl
  | cons d rest ih =>
    rw [List.find?_cons] at none
    cases other : Document.hasId id d with
    | true =>
      rw [other] at none
      cases none
    | false =>
      rw [other] at none
      rw [updateFirst, Document.satisfies_withId, other]
      simp only [ih none]

end Database

namespace Task

variable {α β : Type}

/-- The task fails here although it has changed a document. -/
def HalfDone (t : Task α) (w : World Database) : Prop :=
  (∃ cause, (run t w).1 = .error cause) ∧
    ∃ name, (run t w).2.store.documents name ≠ w.store.documents name

theorem halfDone_silent {t : Task α} {w : World Database} :
    (Errand.silent t).HalfDone w ↔ t.HalfDone w := by
  rw [HalfDone, HalfDone, Errand.silent, run_discard]
  cases (run t w).1 <;> simp

theorem not_halfDone {t : Task α} {w : World Database}
    (kept : Database.Frame w.store (run t w).2.store) : ¬t.HalfDone w :=
  fun ⟨_, name, changed⟩ => changed (kept.documents name)

theorem frame_bind {t : Task α} {f : α → Task β} {w : World Database}
    (first : Database.Frame w.store (run t w).2.store) (behind : ∀ a, (f a).Keeps) :
    Database.Frame w.store (run (t >>= f) w).2.store := by
  rw [run_bind]
  cases outcome : run t w with
  | mk r w' =>
    rw [outcome] at first
    cases r with
    | error _ => exact first
    | ok a => exact first.trans (behind a w')

/-- A failure of the task has changed no document. -/
def Failsafe (t : Task α) : Prop :=
  ∀ (w : World Database) (cause : Failure), (run t w).1 = .error cause →
    Database.Frame w.store (run t w).2.store

theorem failsafe_ofResult (r : Result α) : (ofResult r).Failsafe := fun w _ _ => .refl w.store

theorem Failsafe.behind {t : Task α} {f : α → Task β} (first : t.Keeps)
    (behind : ∀ a, (f a).Failsafe) : (t >>= f).Failsafe := by
  intro w cause failed
  have kept := first w
  rw [run_bind] at failed ⊢
  cases outcome : run t w with
  | mk r w' =>
    rw [outcome] at kept failed
    cases r with
    | error _ => exact kept
    | ok a => exact kept.trans (behind a w' cause failed)

theorem Failsafe.map {t : Task α} (first : t.Failsafe) (f : α → β) :
    (do return f (← t)).Failsafe := by
  intro w cause failed
  have kept := first w
  rw [run_bind] at failed ⊢
  cases outcome : run t w with
  | mk r w' =>
    rw [outcome] at kept failed
    cases r with
    | error cause' => exact kept cause' rfl
    | ok a => cases failed

theorem failsafe_call {c : Call} (failsafe : ∀ (db : Database) (cause : Failure),
    (Database.execute c db).1 = .error cause → Database.Frame db (Database.execute c db).2) :
    (call c).Failsafe := by
  intro w cause failed
  rw [run_call] at failed ⊢
  refine Database.frame_perform fun online => ?_
  rw [Database.perform_of_online online] at failed
  exact failsafe _ cause failed

theorem Failsafe.not_halfDone {t : Task α} (failsafe : t.Failsafe) (w : World Database) :
    ¬t.HalfDone w :=
  fun ⟨⟨cause, failed⟩, name, changed⟩ => changed ((failsafe w cause failed).documents name)

end Task

namespace VectorStore

theorem failsafe_insert (v : VectorStore) (r : Record) :
    (v.insert [r.id] [r.vector] [r.payload]).Failsafe := by
  unfold insert
  rw [v.documents_record]
  cases r.validate v.settings.dimensions with
  | error cause => exact Task.failsafe_ofResult (.error cause)
  | ok _ =>
    have inserts : (Task.call (.insert v.collection [r.toDocument])).Failsafe :=
      Task.failsafe_call fun db _ => Database.frame_insert_failed rfl
    exact Task.Failsafe.behind (t := v.ensureIndex) v.keeps_ensureIndex fun _ =>
      inserts.map fun _ => ()

theorem failsafe_delete (v : VectorStore) (id : String) : (v.delete id).Failsafe := by
  intro w cause failed
  have kept (none : (DocumentStore.perform (.deleteOne v.collection (Document.withId id))
      w.store).1 ≠ .ok 1) : Database.Frame w.store (DocumentStore.perform
        (.deleteOne v.collection (Document.withId id)) w.store).2 := by
    refine Database.frame_perform fun online => Database.frame_deleteOne ?_
    rwa [Database.perform_of_online online] at none
  rw [delete, Task.run_bind, Task.run_call] at failed ⊢
  cases reply : (DocumentStore.perform (.deleteOne v.collection (Document.withId id))
      w.store).1 with
  | error cause' => exact kept (by simp [reply])
  | ok deleted =>
    rw [reply] at kept failed
    simp only at failed ⊢
    split at failed
    · next zero =>
      rw [if_pos zero]
      exact kept (by simp [zero])
    · cases failed

end VectorStore

namespace Service

variable {v : VectorStore} {embedder : Embedder} {lifetime : Int} {coordinator : Coordinator}

theorem failsafe_add (now : Int) (r : AddRequest) :
    Task.Failsafe (add (.direct v embedder lifetime coordinator) now r) := by
  intro w cause
  rw [run_add_eq]
  refine Task.Failsafe.behind (Task.keeps_ofResult _) (fun (payload, vector) => ?_) w cause
  refine Task.Failsafe.behind Task.keeps_newId fun id => ?_
  exact (v.failsafe_insert ⟨id, vector, payload⟩).map _

end Service

namespace VectorStore

variable {v : VectorStore} {g : Promises} {w : World Database} {id : String} {c : Change}
  {fields : Object}

theorem run_update (some : c.isEmpty = false) (made : v.changedFields c = .ok fields)
    (w : World Database) :
    Task.run (v.update id c) w =
      (match (DocumentStore.perform (.update v.collection (Document.withId id)
          [("$set", .object fields)]) w.store).1 with
        | .ok count => if count.matched = 0 then .error (.notFound (.memory id)) else .ok ()
        | .error cause => .error cause,
      w.called (.update v.collection (Document.withId id) [("$set", .object fields)])) := by
  rw [update, if_neg (by simp [some]), Task.run_bind, made, Task.run_ofResult]
  simp only
  rw [Task.run_bind, Task.run_call]
  cases (DocumentStore.perform (.update v.collection (Document.withId id)
      [("$set", .object fields)]) w.store).1 with
  | error cause => rfl
  | ok count =>
    simp only
    split <;> rfl

theorem Promised.documents_called (holds : v.Promised g w) (filter change : Document)
    (name : String) :
    (w.called (.update v.collection filter change)).store.documents name =
      if name = v.collection then
        (Database.updateFirst filter change (w.store.documents v.collection)).2
      else w.store.documents name := by
  rw [World.called, Database.perform_of_online holds.online, Database.documents_execute_update]
  rfl

/-- An accepted change of a memory goes through, and changes a document if it says anything new. -/
theorem Promised.run_update_found (holds : v.Promised g w) (some : c.isEmpty = false)
    (made : v.changedFields c = .ok fields) {d : Document} {o : Object}
    (before : Finds v id w d o) :
    ∃ w', Task.run (v.update id c) w = (.ok (), w') ∧
      ((∃ name, w'.store.documents name ≠ w.store.documents name) ↔
        (Update.apply [("$set", .object fields)] d).2 ≠ d) := by
  obtain ⟨d', _, set, -⟩ := Update.setAll_allowed (changedFields_allowed made) before.payload
  have changed : Update.apply [("$set", .object fields)] d = (.ok (), d') :=
    (Update.apply_set fields d).trans set
  obtain ⟨front, behind, selects⟩ := Database.selects_withId before.found
  obtain ⟨modified, matched⟩ := selects.matched changed
  have documents := holds.documents_called (Document.withId id) [("$set", .object fields)]
  rw [selects.updateFirst, changed] at documents
  refine ⟨w.called (.update v.collection (Document.withId id) [("$set", .object fields)]), ?_, ?_⟩
  · have replied : (DocumentStore.perform (.update v.collection (Document.withId id)
        [("$set", .object fields)]) w.store).1 = .ok ⟨1, modified⟩ := by
      rw [Database.perform_of_online holds.online, Database.execute_update_fst]
      exact matched
    rw [run_update some made, replied]
    rfl
  · rw [changed]
    refine ⟨fun ⟨name, other⟩ same => other ?_, fun other => ⟨v.collection, ?_⟩⟩
    · rw [documents, same, ← selects.split]
      split
      · next own => rw [own]
      · rfl
    · rw [documents, if_pos rfl, selects.split]
      simpa using other

theorem run_update_missing (holds : v.Promised g w) (some : c.isEmpty = false)
    (made : v.changedFields c = .ok fields)
    (missing : (w.store.documents v.collection).find? (Document.hasId id) = none) :
    Database.Frame w.store (Task.run (v.update id c) w).2.store := by
  rw [run_update some made]
  refine ⟨Database.perform_offline _ w.store, fun name => ?_⟩
  rw [holds.documents_called, Database.updateFirst_eq_none missing]
  split
  · next own => rw [own]
  · rfl

end VectorStore

/-- A request that changes what a memory service keeps. -/
inductive Alteration
  | add (now : Int) (r : AddRequest)
  | update (id content : String)
  | delete (id : String)

/-- What an update sets in the document of a memory. -/
def Direct.rewriting (v : VectorStore) (embedder : Embedder) (content : String) :
    Result Object := do
  let vector ← embedder.embedOne content
  v.changedFields ⟨some content, none, some vector⟩

namespace Alteration

def task (s : Service Program) : Alteration → Task Unit
  | add now r => Errand.silent (s.add now r)
  | update id content => Errand.silent (s.update id content)
  | delete id => Errand.silent (s.delete id)

/-- The request rewrites a memory that cannot be read for its session. -/
def Overwrites (v : VectorStore) (embedder : Embedder) (w : World Database) : Alteration → Prop
  | update id content => ∃ fields d payload,
      Text.isBlank content = false ∧ Direct.rewriting v embedder content = .ok fields ∧
      VectorStore.Finds v id w d payload ∧ Payload.Garbled payload ∧
      (Update.apply [("$set", .object fields)] d).2 ≠ d
  | add _ _ | delete _ => False

end Alteration

namespace Service

variable {v : VectorStore} {embedder : Embedder} {lifetime : Int} {coordinator : Coordinator}

theorem keeps_get (id : String) : Task.Keeps ((Direct.engine v embedder).get id) := by
  have finds : (Task.call (.findOne v.collection (Document.withId id))).Keeps :=
    Task.keeps_call fun db => .refl db
  refine Task.Keeps.bind (t := v.get id) (finds.bind fun found => ?_) fun _ =>
    Task.keeps_ofResult (.ok _)
  cases found <;> exact Task.keeps_ofResult _

theorem get_fails_iff (embedder : Embedder) {w : World Database} {id : String} {d : Document}
    {o : Object} (finds : VectorStore.Finds v id w d o) {own : String}
    (named : d.id? = some own) {p : Payload} (legible : Payload.Legible o p) :
    (∃ cause, (Task.run ((Direct.engine v embedder).get id) w).1 = .error cause) ↔
      Payload.Garbled o := by
  have shape : (Task.run ((Direct.engine v embedder).get id) w).1 =
      MemoryItem.ofStored <$> (Task.run (v.get id) w).1 := by
    change (Task.run (v.get id >>= fun m => pure (MemoryItem.ofStored m)) w).1 = _
    rw [Task.run_bind]
    rcases Task.run (v.get id) w with ⟨_ | m, w'⟩ <;> rfl
  have read : (∃ q, Payload.Reads o q) ↔ ∃ m, (Task.run (v.get id) w).1 = .ok m := by
    constructor
    · rintro ⟨q, reads⟩
      obtain ⟨w', answered⟩ := (finds.run_get_iff (m := ⟨own, none, q⟩)).mpr ⟨reads, named, rfl⟩
      exact ⟨_, congrArg Prod.fst answered⟩
    · rintro ⟨m, answered⟩
      exact ⟨m.payload, (finds.run_get_iff.mp ⟨_, Prod.ext answered rfl⟩).1⟩
  rw [← not_iff_not, ← legible.exists_reads_iff, read, shape]
  cases (Task.run (v.get id) w).1 <;> simp

theorem run_directUpdate_refused {content : String} {cause : Failure} (id : String)
    (refused : Direct.rewriting v embedder content = .error cause) (w : World Database) :
    Task.run (Direct.update v embedder id content) w = (.error cause, w) := by
  rw [Direct.update, Task.run_bind, Task.run_ofResult]
  unfold Direct.rewriting at refused
  cases embedded : embedder.embedOne content with
  | error cause' =>
    rw [embedded, Fallible.error_bind] at refused
    rw [Except.error.inj refused]
  | ok vector =>
    rw [embedded, Fallible.ok_bind] at refused
    change Task.run (v.update id _) w = _
    rw [VectorStore.update, if_neg (by simp [Change.isEmpty]), Task.run_bind, Task.run_ofResult,
      refused]

/-- A change of the content is half done if the memory cannot be read again, which it could not be
before, and if it says anything new. -/
theorem halfDone_rewriting_iff {g : Promises} {w : World Database} (holds : v.Promised g w)
    {id content : String} {vector : Embedding} {fields : Object}
    (made : v.changedFields ⟨some content, none, some vector⟩ = .ok fields) {d : Document}
    {o : Object} (before : VectorStore.Finds v id w d o) :
    Task.HalfDone (do
        v.update id ⟨some content, none, some vector⟩
        (Direct.engine v embedder).get id) w ↔
      Payload.Garbled o ∧ (Update.apply [("$set", .object fields)] d).2 ≠ d := by
  obtain ⟨n, o₁, promised⟩ := holds.stored d (List.mem_of_find?_eq_some before.found)
  obtain rfl : o = o₁ := by simpa using before.payload.symm.trans promised.payload
  obtain ⟨p, legible⟩ := promised.legible
  obtain ⟨w', updated, changed⟩ := holds.run_update_found rfl made before
  obtain ⟨d', o', after, sameId, entries, -⟩ := VectorStore.run_update_eq_ok before updated
  have written : Update.Written (Change.latest [⟨some content, none, some vector⟩]) o o' := entries
  have free (key : String) :
      key ∉ (Change.merged [⟨some content, none, some vector⟩]).keys := List.not_mem_nil
  have named : d'.id? = some (identifier n) := by rw [Document.id?, sameId, promised.id]
  have fails := get_fails_iff embedder after named
    (legible.after_written written fun key _ => free key)
  rw [Payload.garbled_written written (fun key _ => free key) (free _)] at fails
  rw [Task.HalfDone, Task.run_bind, updated]
  simp only [(keeps_get id w').documents, fails, changed]

theorem halfDone_update_iff {g : Promises} {w : World Database} (holds : v.Promised g w)
    (id content : String) :
    Task.HalfDone (update (.direct v embedder lifetime coordinator) id content) w ↔
      Alteration.Overwrites v embedder w (.update id content) := by
  cases blank : Text.isBlank content with
  | true =>
    refine iff_of_false (Task.not_halfDone ?_) fun ⟨_, _, _, written, _⟩ =>
      nomatch blank.symm.trans written
    rw [update, if_pos blank]
    exact .refl _
  | false =>
    have shape : update (.direct v embedder lifetime coordinator) id content = (do
        Direct.update v embedder id content
        (Direct.engine v embedder).get id) := by
      rw [update, if_neg (by simp [blank])]
      rfl
    rw [shape]
    cases rewritten : Direct.rewriting v embedder content with
    | error cause =>
      refine iff_of_false (Task.not_halfDone ?_) fun ⟨_, _, _, _, made, _⟩ =>
        nomatch rewritten.symm.trans made
      refine Task.frame_bind ?_ fun _ => keeps_get id
      rw [run_directUpdate_refused id rewritten w]
      exact .refl _
    | ok fields =>
      obtain ⟨vector, embedded, made⟩ := Fallible.bind_eq_ok.mp rewritten
      have direct : Direct.update v embedder id content =
          v.update id ⟨some content, none, some vector⟩ := by
        rw [Direct.update, embedded]
        rfl
      rw [direct]
      cases found : (w.store.documents v.collection).find? (Document.hasId id) with
      | none =>
        have kept := VectorStore.run_update_missing holds rfl made found
        exact iff_of_false (Task.not_halfDone (Task.frame_bind kept fun _ => keeps_get id))
          fun ⟨_, _, _, _, _, finds, _⟩ => nomatch found.symm.trans finds.found
      | some d =>
        obtain ⟨n, o, promised⟩ := holds.stored d (List.mem_of_find?_eq_some found)
        have before : VectorStore.Finds v id w d o := ⟨holds.online, found, promised.payload⟩
        rw [halfDone_rewriting_iff holds made before]
        constructor
        · rintro ⟨garbled, new⟩
          exact ⟨fields, d, o, blank, rewritten, before, garbled, new⟩
        · rintro ⟨fields', d', o', -, rewritten', finds, garbled, new⟩
          obtain rfl : fields = fields' := Except.ok.inj (rewritten.symm.trans rewritten')
          obtain rfl : d = d' := Option.some.inj (found.symm.trans finds.found)
          obtain rfl : o = o' := by simpa using before.payload.symm.trans finds.payload
          exact ⟨garbled, new⟩

/-- Whatever has been done before: a request to change what is stored that fails has changed no
document, unless it is an update of a memory that cannot be read for its session. Such an update
writes what it was given, and fails. -/
theorem alteration_half_done_iff (v : VectorStore) (embedder : Embedder) (lifetime : Int)
    (coordinator : Coordinator) (deeds : List Deed) (schedule : List Nat) (a : Alteration) :
    Task.HalfDone (a.task (.direct v embedder lifetime coordinator))
        (Deed.during v lifetime coordinator deeds schedule) ↔
      a.Overwrites v embedder (Deed.during v lifetime coordinator deeds schedule) := by
  obtain ⟨g, holds⟩ := Deed.promised_during v lifetime coordinator deeds schedule
  cases a with
  | add now r =>
    exact Task.halfDone_silent.trans (iff_of_false ((failsafe_add now r).not_halfDone _) nofun)
  | update id content => exact Task.halfDone_silent.trans (halfDone_update_iff holds id content)
  | delete id =>
    exact Task.halfDone_silent.trans (iff_of_false ((v.failsafe_delete id).not_halfDone _) nofun)

/-- A memory with a number as its session. -/
def garbledSession : World Database :=
  Deed.during ⟨⟨"memories", 1, .diskann, 0, 50⟩⟩ 0 (.ofSize 50)
    [.errand (.ofLetters 1) (.add 0
      ⟨⟨some "u", none, none⟩, .text "a", .fact, some [("session_id", .ofInt 5)], none⟩)]
    (.replicate 6 0)

def rewritingGarbled : Task Unit :=
  Alteration.task (.direct ⟨⟨"memories", 1, .diskann, 0, 50⟩⟩ (.ofLetters 1) 0 (.ofSize 50))
    (.update (identifier 1) "bc")

/-- An update of such a memory changes its content, and fails. -/
theorem update_writes_and_fails : rewritingGarbled.HalfDone garbledSession := by
  have failed : (Task.run rewritingGarbled garbledSession).1.isOk = false := by decide +kernel
  have longer : ((Task.run rewritingGarbled garbledSession).2.store.documents
      "memories").map Document.size ≠ (garbledSession.store.documents "memories").map
        Document.size := by decide +kernel
  refine ⟨?_, "memories", fun same => longer (congrArg (List.map Document.size) same)⟩
  cases answer : (Task.run rewritingGarbled garbledSession).1 with
  | error cause => exact ⟨cause, rfl⟩
  | ok _ =>
    rw [answer] at failed
    cases failed

end Service

end MemoryBank
