import MemoryBank.Proofs.Memory.Legibility
import MemoryBank.Proofs.Program.Chronicle
import MemoryBank.Proofs.Service.Adding
import MemoryBank.Proofs.Service.Tending
import MemoryBank.Proofs.Store.Identity
import MemoryBank.Proofs.Store.Uniqueness

set_option autoImplicit false

/-!
What a memory service is asked while others change memories through the adapter. Whatever is done,
each memory that is stored has the expiry it was stored with at first: metadata written over a
payload cannot take its key, and no two memories are issued the same id.
-/

namespace MemoryBank

namespace Database

theorem forall_updateFirst {P : Document → Prop} {change : Document}
    (changed : ∀ d, P d → P (Update.apply change d).2) (filter : Document) {ds : List Document}
    (each : ∀ d ∈ ds, P d) : ∀ d ∈ (updateFirst filter change ds).2, P d := by
  rcases updateFirst_eq_or_selects filter change ds with same | ⟨before, d, behind, selects⟩
  · rwa [same]
  · rw [selects.updateFirst]
    obtain rfl := selects.split
    simp only [List.forall_mem_append, List.forall_mem_cons] at each ⊢
    exact ⟨each.1, changed d each.2.1, each.2.2⟩

theorem documents_execute_update (name other : String) (filter change : Document) (db : Database) :
    (execute (.update name filter change) db).2.documents other =
      if other = name then (updateFirst filter change (db.documents name)).2
      else db.documents other := by
  cases found : db.find? name with
  | none =>
    simp only [execute, update, found, documents_of_missing found, updateFirst]
    split_ifs with same
    · rw [same, documents_of_missing found]
    · rfl
  | some c => simp only [execute, update, found, documents_put, documents_of_find? found]

theorem forall_execute_update {P : Document → Prop} {change : Document}
    (changed : ∀ d, P d → P (Update.apply change d).2) (name : String) (filter : Document)
    {db : Database} (each : ∀ d ∈ db.documents name, P d) :
    ∀ d ∈ (execute (.update name filter change) db).2.documents name, P d := by
  rw [documents_execute_update, if_pos rfl]
  exact forall_updateFirst changed filter each

theorem forall_execute_insert {P : Document → Prop} {new : Document}
    (named : new.contains Document.idKey = true) (own : P new) {name : String} {db : Database}
    (each : ∀ d ∈ db.documents name, P d) :
    ∀ d ∈ (execute (.insert name [new]) db).2.documents name, P d := by
  have before : (db.put name (db.opened name)).documents name = db.documents name := by
    rw [documents_put, if_pos rfl]
    rfl
  rw [← before] at each
  change ∀ d ∈ (insertAll name 0 [new] (db.put name (db.opened name))).2.documents name, P d
  rw [insertAll, identify_of_id named]
  simp only [insertAll]
  split
  · exact each
  · rw [documents_put, if_pos rfl]
    simp only [List.forall_mem_append, List.forall_mem_singleton]
    exact ⟨each, own⟩

end Database

/-- What is stored under the expiry of the memory with each number, noted as that number is
issued. -/
abbrev Promises := Nat → Option (Option Json)

def Promises.Extends (g g' : Promises) : Prop := ∀ n expiry, g n = some expiry → g' n = some expiry

/-- The document stores a memory whose number has been issued, with the expiry noted then, and
legibly. -/
structure Document.Promised (g : Promises) (n : Nat) (o : Object) (d : Document) : Prop where
  id : d.get? Document.idKey = some (.string (identifier n))
  payload : d.get? payloadKey = some (.object o)
  expiry : g n = some (o.get? Payload.expiryKey)
  legible : ∃ p, Payload.Legible o p

theorem Document.Promised.later {g g' : Promises} {n : Nat} {o : Object} {d : Document}
    (promised : d.Promised g n o) (noted : g.Extends g') : d.Promised g' n o :=
  { promised with expiry := noted n _ promised.expiry }

theorem Document.Promised.changed {v : VectorStore} {g : Promises} {n : Nat} {o : Object}
    {d : Document} {c : Change} {fields : Object} (promised : d.Promised g n o)
    (made : v.changedFields c = .ok fields) :
    ∃ o', Document.Promised g n o' (Update.apply [("$set", .object fields)] d).2 := by
  obtain ⟨d', o', set, sameId, shows, entries⟩ :=
    Update.setAll_allowed (VectorStore.changedFields_allowed made) promised.payload
  have written : Update.Written (Change.latest [c]) o o' :=
    ⟨fun key => by rw [entries.get?, VectorStore.get?_changedFields made]; rfl, entries.once⟩
  have free : ∀ key ∈ Payload.reservedKeys, key ∉ (Change.merged [c]).keys := by
    intro key reserved member
    rw [Change.merged, List.flatMap_singleton, Object.mem_keys_insertAll] at member
    have new := member.resolve_left List.not_mem_nil
    exact ((VectorStore.changedFields_eq_ok made).2 key new).1 reserved
  obtain ⟨p, legible⟩ := promised.legible
  rw [Update.apply_set, set]
  refine ⟨o', sameId.trans promised.id, shows, ?_, _, legible.after_written written free⟩
  rw [promised.expiry, Payload.get?_reserved written free (by decide) (by decide)]

namespace VectorStore

/-- All memories of the collection are stored as promised, and no number that is yet to be issued
has been promised anything. -/
structure Promised (v : VectorStore) (g : Promises) (w : World Database) : Prop where
  online : w.store.offline = false
  unissued : ∀ n, w.store.issued < n → g n = none
  stored : ∀ d ∈ w.store.documents v.collection, ∃ n o, d.Promised g n o

def promises (v : VectorStore) : Chronicle Database Promises where
  Holds g w := v.Promised g w
  Extends := Promises.Extends
  refl _ _ _ noted := noted
  trans first next n expiry noted := next n expiry (first n expiry noted)

variable {v : VectorStore} {g : Promises} {w : World Database}

theorem Promised.called {c : Call} (holds : v.Promised g w)
    (stored : ∀ d ∈ (Database.execute c (.arrive c w.store)).2.documents v.collection,
      ∃ n o, d.Promised g n o) : v.Promised g (w.called c) where
  online := (Database.perform_offline c w.store).trans holds.online
  unissued n later := holds.unissued n ((Database.issued_perform c w.store).trans_lt later)
  stored := by
    rw [World.called, Database.perform_of_online holds.online]
    exact stored

theorem respects_call {c : Call} (inserts : ∀ name ds, c ≠ .insert name ds)
    (updates : ∀ name filter change, c ≠ .update name filter change) :
    (Task.call c).Respects v.promises := fun _ =>
  Task.records_call fun g w _ holds => by
    refine ⟨g, v.promises.refl g, holds.called fun d member => ?_, fun _ _ _ _ => trivial⟩
    exact holds.stored d ((Database.documents_sublist _ inserts updates _).mem member)

theorem respects_set {id : String} {c : Change} {fields : Object}
    (made : v.changedFields c = .ok fields) :
    (Task.call (.update v.collection (Document.withId id) [("$set", .object fields)])).Respects
      v.promises := fun _ =>
  Task.records_call fun g w _ holds => by
    refine ⟨g, v.promises.refl g, holds.called ?_, fun _ _ _ _ => trivial⟩
    refine Database.forall_execute_update (fun d ⟨n, o, promised⟩ => ?_) _ _ holds.stored
    exact ⟨n, promised.changed made⟩

theorem Promised.of_store {w' : World Database} (holds : v.Promised g w)
    (same : w'.store = w.store) : v.Promised g w' :=
  ⟨same ▸ holds.online, same ▸ holds.unissued, same ▸ holds.stored⟩

theorem respects_verdict (name : String) : (Task.verdict name).Respects v.promises :=
  fun _ g _ _ holds => ⟨g, v.promises.refl g, holds, fun _ _ _ _ => trivial⟩

theorem respects_remember (name : String) (status : IndexStatus) :
    (Task.remember name status).Respects v.promises := fun _ g w _ holds => by
  refine ⟨g, v.promises.refl g, Promised.of_store holds ?_, fun _ _ _ _ => trivial⟩
  simp only [Step.perform]
  cases w.verdicts.get? name <;> rfl

theorem respects_inspect (name : String) : (Upkeep.inspect name).Respects v.promises := fun g => by
  rw [Task.Records, Upkeep.inspect_eq]
  intro g' w _ holds
  refine ⟨g', v.promises.refl g', holds.called fun d member => ?_, fun _ _ _ _ => trivial⟩
  exact holds.stored d ((Database.documents_sublist _ (by simp) (by simp) _).mem member)

theorem respects_ensureIndex : v.ensureIndex.Respects v.promises :=
  Upkeep.ensure_of_parts (Task.closed_respects _) (respects_verdict _) (respects_inspect _)
    (respects_call nofun nofun) (respects_remember _)

/-- The number of a new memory is issued together with a promise, which no other program makes. -/
theorem records_newId (expiry : Option Json) : Task.newId.Records v.promises
    (fun id g => ∃ n, id = identifier n ∧ g n = some expiry) g := fun g w _ holds => by
  have new : g (w.store.issued + 1) = none := holds.unissued _ (Nat.lt_succ_self _)
  let g' : Promises := Function.update g (w.store.issued + 1) (some expiry)
  have noted : g.Extends g' := by
    intro n expiry' known
    have other : n ≠ w.store.issued + 1 := by
      rintro rfl
      cases new.symm.trans known
    exact (Function.update_of_ne other _ _).trans known
  refine ⟨g', noted, ⟨holds.online, fun n later => ?_, fun d member => ?_⟩, ?_⟩
  · have later : w.store.issued + 1 < n := later
    exact (Function.update_of_ne (Nat.ne_of_gt later) _ _).trans (holds.unissued n (by omega))
  · obtain ⟨n, o, promised⟩ := holds.stored d member
    exact ⟨n, o, promised.later noted⟩
  · intro g'' further id same
    obtain rfl := Except.ok.inj same
    exact ⟨_, rfl, further _ _ (Function.update_self ..)⟩

theorem records_insert {n : Nat} {r : Record} (named : r.id = identifier n)
    (storable : r.payload.Storable)
    (noted : g n = some (r.payload.toDocument.get? Payload.expiryKey)) :
    (v.insert [r.id] [r.vector] [r.payload]).Records v.promises (fun _ _ => True) g := by
  unfold insert
  rw [v.documents_record]
  cases r.validate v.settings.dimensions with
  | error cause => exact (Task.closed_respects _).result (.error cause) g
  | ok _ =>
    refine Task.Records.bind (t := v.ensureIndex) (respects_ensureIndex g) fun _ g₁ known _ =>
      Task.Records.bind (M := fun _ _ => True) (Task.records_call fun g₂ w further holds => ?_)
        fun _ g₂ _ _ => (Task.closed_respects _).result (.ok ()) g₂
    refine ⟨g₂, v.promises.refl g₂, holds.called ?_, fun _ _ _ _ => trivial⟩
    refine Database.forall_execute_insert rfl ⟨n, r.payload.toDocument, ?_⟩ holds.stored
    exact ⟨named ▸ rfl, rfl, further _ _ (known _ _ noted), _, storable.legible⟩

theorem parts_promises (v : VectorStore) (embedder : Embedder) :
    Errand.Parts (fun _ t => t.Respects v.promises) v embedder where
  closed := Task.closed_respects _
  ensures := respects_ensureIndex
  reads c unchanged _ := Task.records_call fun g w _ holds => by
    refine ⟨g, v.promises.refl g, holds.called ?_, fun _ _ _ _ => trivial⟩
    rw [unchanged]
    exact holds.stored
  inserts {_ _ _ payload vector} made _ g := by
    refine (records_newId (payload.toDocument.get? Payload.expiryKey)).bind
      fun id g' _ ⟨n, named, noted⟩ => ?_
    have inserts := records_insert (v := v) (r := ⟨id, vector, payload⟩) named
      (Direct.storable_payload made) noted
    exact inserts.bind fun _ g'' _ _ => (Task.closed_respects _).result (.ok _) g''
  updates _ _ made := respects_set made
  deletes _ := respects_call nofun nofun
  sweeps _ _ := respects_call nofun nofun

end VectorStore

/-- An errand for a memory service, which may fail to embed in its own way, or a change that is made
through the adapter. -/
inductive Deed
  | errand (embedder : Embedder) (o : Errand)
  | change (id : String) (c : Change)

namespace Deed

def tasks (v : VectorStore) (lifetime : Int) (coordinator : Coordinator) :
    Deed → List (Task Unit)
  | errand embedder o => o.tasks (.direct v embedder lifetime coordinator)
  | change id c => [v.update id c]

theorem respects_tasks (v : VectorStore) (lifetime : Int) (coordinator : Coordinator)
    (deed : Deed) : ∀ t ∈ deed.tasks v lifetime coordinator, t.Respects v.promises := by
  cases deed with
  | errand embedder o => exact (v.parts_promises embedder).tasks lifetime coordinator o
  | change id c =>
    refine List.forall_mem_singleton.mpr ?_
    exact v.update_of_parts (Task.closed_respects _) id c fun _ made =>
      VectorStore.respects_set made

/-- The world at some moment of doing them on an empty store, one step of one program and then one
of another. -/
def during (v : VectorStore) (lifetime : Int) (coordinator : Coordinator) (deeds : List Deed)
    (schedule : List Nat) : World Database :=
  (Pool.follow schedule ((deeds.flatMap (·.tasks v lifetime coordinator)).map ExceptT.run)
    ⟨.empty, .empty⟩).2

theorem promised_during (v : VectorStore) (lifetime : Int) (coordinator : Coordinator)
    (deeds : List Deed) (schedule : List Nat) :
    ∃ g, v.Promised g (during v lifetime coordinator deeds schedule) := by
  have start : v.Promised (fun _ => none) ⟨.empty, .empty⟩ := ⟨rfl, fun _ _ => rfl, nofun⟩
  have record : ∀ p ∈ (deeds.flatMap (·.tasks v lifetime coordinator)).map ExceptT.run,
      Program.Records v.promises (fun (r : Result Unit) _ => ∀ a, r = .ok a → True) p
        fun _ => none := by
    refine List.forall_mem_map.mpr fun t among => ?_
    obtain ⟨deed, -, among⟩ := List.mem_flatMap.mp among
    exact deed.respects_tasks v lifetime coordinator t among _
  obtain ⟨g, -, holds, -⟩ := Pool.records_follow (c := v.promises) start record schedule
  exact ⟨g, holds⟩

end Deed

end MemoryBank
