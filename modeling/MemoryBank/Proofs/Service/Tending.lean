import MemoryBank.Proofs.Memory.Codec
import MemoryBank.Proofs.Index.Concurrent
import MemoryBank.Proofs.Service.Errands
import MemoryBank.Proofs.Store.Ledger

set_option autoImplicit false

/-!
What a memory service keeps in a store that is empty at first and that it alone writes to. Between
any two steps of its errands, the collection is there only with its index, and every memory in it is
stored with the embedding of its own content, also after updates and failures of any kind.
-/

namespace MemoryBank

namespace Entry

def Issued (n : Nat) (e : Entry) : Prop := ∃ m, m ≤ n ∧ e.id = identifier m

/-- The vector is the embedding of the content, and has as many dimensions as it should. -/
def Faithful (v : VectorStore) (embedder : Embedder) (e : Entry) : Prop :=
  ∃ text vector, e.payload.get? "data" = some (.string text) ∧
    embedder.embedOne text = .ok vector ∧ e.vector = vector.toJson ∧
      vector.length = v.settings.dimensions

variable {v : VectorStore} {embedder : Embedder}

theorem faithful_ofRecord {r : Record} {text : String} {scope : Scope} {metadata : Object}
    (made : Direct.payload text scope metadata = .ok r.payload)
    (embedded : embedder.embedOne text = .ok r.vector)
    (valid : r.validate v.settings.dimensions = .ok ()) :
    (Entry.ofRecord r).Faithful v embedder := by
  obtain ⟨⟨category, expiresAt, extra⟩, -, value⟩ := Fallible.bind_eq_ok.mp made
  obtain ⟨content, free⟩ : r.payload.content = text ∧
      ∀ key ∈ r.payload.metadata.keys, key ∉ Payload.reservedKeys := by
    have built := (Payload.Built.new text category scope).merge extra
    rw [← Except.ok.inj value]
    exact ⟨rfl, built.storable.free⟩
  -- the metadata stand behind the content, and cannot take its key
  have others : Object.get? r.payload.metadata.reverse "data" = none := by
    refine Object.get?_eq_none.mpr fun member => free "data" ?_ (by decide)
    rw [Object.keys, List.map_reverse] at member
    exact List.mem_reverse.mp member
  refine ⟨text, r.vector, ?_, embedded, rfl, Record.length_of_validate valid⟩
  have kept : r.payload.toDocument.get? "data" = r.payload.typedEntries.get? "data" := by
    rw [Payload.toDocument, Object.get?_insertAll, others, Option.none_or]
  exact kept.trans (congrArg (fun content => some (Json.string content)) content)

theorem faithful_changed {content : String} {vector : Embedding} {fields : Object} (e : Entry)
    (embedded : embedder.embedOne content = .ok vector)
    (made : v.changedFields ⟨some content, none, some vector⟩ = .ok fields) :
    (e.changed ⟨some content, none, some vector⟩).Faithful v embedder := by
  refine ⟨content, vector, Object.get?_insert_self _ _ _, embedded, rfl, ?_⟩
  obtain ⟨_, -, made⟩ := Fallible.bind_eq_ok.mp made
  obtain ⟨_, fits, -⟩ := Fallible.bind_eq_ok.mp made
  unfold VectorStore.checkVector at fits
  split at fits
  · cases fits
  · next same => exact not_not.mp same

end Entry

theorem Ledger.mem_addAll {collection : String} {es : List Entry} {l : Ledger} {e : Entry}
    (member : e ∈ (l.addAll collection es).2.entries) : e ∈ l.entries ∨ e ∈ es := by
  induction es generalizing l with
  | nil => exact .inl member
  | cons first rest ih =>
    rw [addAll] at member
    split at member
    · rcases ih member with known | new
      · refine (List.mem_append.mp known).imp_right fun last => ?_
        rw [List.mem_singleton.mp last]
        exact List.mem_cons_self
      · exact .inr (List.mem_cons_of_mem _ new)
    · exact .inl member

namespace Database

theorem issued_insertAll (name : String) (ds : List Document) (n : Nat) (db : Database) :
    db.issued ≤ (insertAll name n ds db).2.issued := by
  induction ds generalizing n db with
  | nil => exact Nat.le_refl _
  | cons d rest ih =>
    have noted : db.issued ≤ (identify d db).2.issued := by
      unfold identify
      split
      · exact Nat.le_refl _
      · exact Nat.le_succ _
    rw [insertAll]
    simp only
    split
    · exact noted
    · exact noted.trans (ih _ (.put _ name _))

theorem issued_runCommand (command : Document) (db : Database) :
    (runCommand command db).2.issued = db.issued := by
  unfold runCommand
  split
  · unfold createIndexes
    cases requestedSpecs command <;> rfl
  · rfl
  · rfl
  · unfold create
    split <;> rfl
  · rfl
  · rfl

theorem issued_execute (c : Call) (db : Database) : db.issued ≤ (execute c db).2.issued := by
  cases c with
  | collectionNames | find _ _ _ | findOne _ _ | aggregate _ _ | createCollection _
  | dropCollection _ => exact Nat.le_refl _
  | command command => exact (issued_runCommand command db).ge
  | insert target ds => exact issued_insertAll target ds 0 (db.put target (db.opened target))
  | update target filter change =>
    simp only [execute, update]
    cases db.find? target <;> exact Nat.le_refl _
  | deleteOne target filter =>
    simp only [execute, deleteOne]
    cases db.find? target <;> exact Nat.le_refl _
  | deleteMany target filter =>
    simp only [execute, deleteMany]
    cases db.find? target with
    | none => exact Nat.le_refl _
    | some c =>
      simp only
      cases deleteSelected filter c.documents <;> exact Nat.le_refl _

theorem issued_perform (c : Call) (db : Database) :
    db.issued ≤ (DocumentStore.perform c db).2.issued := by
  cases online : db.offline with
  | true =>
    rw [perform_of_offline online]
    exact Nat.le_refl _
  | false =>
    rw [perform_of_online online]
    exact issued_execute c (arrive c db)

theorem execute_createCommand_refused {name : String} {d : IndexDescriptor} {cause : Failure}
    (refused : Upkeep.readied name d = .error cause) (db : Database) :
    ∃ cause, execute (.command (d.createCommand name)) db = (.error cause, db) := by
  change ∃ cause, createIndexes (d.createCommand name) db = (.error cause, db)
  unfold createIndexes
  rw [requestedSpecs_createCommand]
  unfold Upkeep.readied at refused
  cases named : name.isEmpty with
  | true => exact ⟨_, rfl⟩
  | false =>
    rw [named] at refused
    rw [show IndexSpec.validate d.spec = .error cause from refused]
    exact ⟨cause, rfl⟩

theorem Holds.bare {db : Database} {name : String} (holds : db.Holds name none) :
    db.indexes name = [] := by
  rw [indexes, opened, holds.missing]
  rfl

theorem Holds.createCommand {db : Database} {name : String} {s : Option Ledger}
    {d : IndexDescriptor} (holds : db.Holds name s) (named : name.isEmpty = false)
    (valid : IndexSpec.validate d.spec = .ok ()) :
    (execute (.command (d.createCommand name)) db).2.Holds name (some (s.getD .empty)) := by
  change (createIndexes (d.createCommand name) db).2.Holds name _
  unfold createIndexes
  rw [requestedSpecs_createCommand, named, valid]
  exact holds.put holds.documents

end Database

namespace VectorStore

/-- The index of the collection, as the adapter is configured. -/
def ownIndex (v : VectorStore) : IndexDescriptor :=
  v.descriptor v.collection v.settings.dimensions

/-- The store holds what the ledger says: without a ledger there is no collection, and with one the
collection has its index. Its memories are faithful, under ids that were issued. -/
structure Tends (v : VectorStore) (embedder : Embedder) (s : Option Ledger)
    (w : World Database) : Prop where
  store : w.store.Holds v.collection s
  indexes : s.isSome = true → w.store.indexes v.collection = [v.ownIndex.spec]
  ready : s.isSome = true → Upkeep.readied v.collection v.ownIndex = .ok ()
  verdict : (w.verdicts.get? v.collection).isSome = true → s.isSome = true
  memories : ∀ e ∈ (s.getD .empty).entries, e.Faithful v embedder ∧ e.Issued w.store.issued

/-- Ids are issued and the collection is made once and for all. -/
def tending (v : VectorStore) (embedder : Embedder) : Rule Database where
  Holds w := ∃ s, v.Tends embedder s w
  Allows w w' := w.store.issued ≤ w'.store.issued ∧
    ((w.store.find? v.collection).isSome = true → (w'.store.find? v.collection).isSome = true)
  refl _ := ⟨Nat.le_refl _, id⟩
  trans first next := ⟨Nat.le_trans first.1 next.1, next.2 ∘ first.2⟩

variable {v : VectorStore} {embedder : Embedder} {s s' : Option Ledger} {w w' : World Database}

theorem isSome_find? (holds : w.store.Holds v.collection s) :
    (w.store.find? v.collection).isSome = s.isSome := by
  simpa using congrArg Option.isSome holds.own

theorem Tends.leads (next : v.Tends embedder s' w') (before : w.store.Holds v.collection s)
    (issued : w.store.issued ≤ w'.store.issued) (stays : s.isSome = true → s'.isSome = true) :
    (v.tending embedder).Leads w w' := by
  refine ⟨⟨s', next⟩, issued, fun here => ?_⟩
  rw [isSome_find? before] at here
  exact (isSome_find? next.store).trans (stays here)

theorem Tends.called {c : Call} (tends : v.Tends embedder s w)
    (left : (Database.execute c (.arrive c w.store)).2.Holds v.collection s')
    (indexes : (w.called c).store.indexes v.collection = w.store.indexes v.collection)
    (same : s'.isSome = s.isSome)
    (memories : ∀ e ∈ (s'.getD .empty).entries,
      e.Faithful v embedder ∧ e.Issued w.store.issued) :
    (v.tending embedder).Leads w (w.called c) := by
  have issued : w.store.issued ≤ (w.called c).store.issued := Database.issued_perform c w.store
  have next : v.Tends embedder s' (w.called c) := by
    refine ⟨?_, ?_, ?_, ?_, fun e member => ?_⟩
    · rw [World.called, Database.perform_of_online tends.store.online]
      exact left
    · exact fun here => indexes.trans (tends.indexes (same ▸ here))
    · exact fun here => tends.ready (same ▸ here)
    · exact fun known => same.symm ▸ tends.verdict known
    · obtain ⟨faithful, n, known, named⟩ := memories e member
      exact ⟨faithful, n, known.trans issued, named⟩
  exact next.leads tends.store issued same.ge

theorem Tends.writes {c : Call} (tends : v.Tends embedder s w) (writes : c.Writes v embedder w)
    (opened : c.verb = "insert" → (w.store.find? v.collection).isSome = true) :
    (v.tending embedder).Leads w (w.called c) := by
  cases writes with
  | @insert n r _ _ _ issued named made embedded valid =>
    obtain ⟨l, rfl⟩ := Option.isSome_iff_exists.mp ((isSome_find? tends.store) ▸ opened rfl)
    refine tends.called ((tends.store.arrive _).insert [.ofRecord r]).2
      (Database.indexes_perform (.inr ⟨v.collection, beq_self_eq_true _⟩) _ _) rfl
      fun e member => ?_
    rcases Ledger.mem_addAll member with known | new
    · exact tends.memories e known
    · obtain rfl := List.mem_singleton.mp new
      exact ⟨Entry.faithful_ofRecord made embedded valid, n, issued, named⟩
  | @update id content vector fields embedded made =>
    refine tends.called ((tends.store.arrive _).update id made).2
      (Database.indexes_perform (.inl rfl) _ _) (by simp) fun e member => ?_
    cases s with
    | none => cases member
    | some l =>
      obtain ⟨old, known, rfl⟩ := List.mem_map.mp member
      obtain ⟨faithful, issued⟩ := tends.memories old known
      split
      · exact ⟨old.faithful_changed embedded made, issued⟩
      · exact ⟨faithful, issued⟩
  | @delete id =>
    refine tends.called ((tends.store.arrive _).deleteOne id).2
      (Database.indexes_perform (.inl rfl) _ _) (by simp) fun e member => ?_
    cases s with
    | none => cases member
    | some l => exact tends.memories e (List.mem_filter.mp member).1
  | @sweep collection now =>
    by_cases own : collection = v.collection
    · subst own
      refine tends.called ((tends.store.arrive _).deleteMany now).2
        (Database.indexes_perform (.inl rfl) _ _) (by simp) fun e member => ?_
      cases s with
      | none => cases member
      | some l => exact tends.memories e (List.mem_filter.mp member).1
    · -- there is no other collection to sweep
      refine tends.called ?_ (Database.indexes_perform (.inl rfl) _ _) rfl tends.memories
      have away := (tends.store.arrive (.deleteMany collection (Sweep.expired now))).others _ own
      simp only [Database.execute, Database.deleteMany, away]
      exact tends.store.arrive _

theorem Tends.numbered (tends : v.Tends embedder s w) :
    v.Tends embedder s { w with store := (DocumentStore.newId w.store).2 } := by
  refine ⟨⟨tends.store.online, tends.store.own, tends.store.others⟩, tends.indexes, tends.ready,
    tends.verdict, fun e member => ?_⟩
  obtain ⟨faithful, n, issued, named⟩ := tends.memories e member
  exact ⟨faithful, n, Nat.le_succ_of_le issued, named⟩

theorem Tends.remembered (tends : v.Tends embedder s w)
    (there : (w.store.find? v.collection).isSome = true) (status : IndexStatus) :
    (v.tending embedder).Leads w (Step.perform (.remember v.collection status) w).2 := by
  simp only [Step.perform]
  cases w.verdicts.get? v.collection with
  | some standing => exact .refl ⟨s, tends⟩
  | none =>
    have next : v.Tends embedder s ⟨w.store, w.verdicts.insert v.collection status⟩ :=
      ⟨tends.store, tends.indexes, tends.ready,
        fun _ => (isSome_find? tends.store).symm.trans there, tends.memories⟩
    exact next.leads tends.store (Nat.le_refl _) id

theorem abides_create : (Task.call (.command (v.ownIndex.createCommand v.collection))).Abides
    (v.tending embedder) (fun _ w => (w.store.find? v.collection).isSome = true) w := by
  refine Task.abides_call fun w' leads => ?_
  obtain ⟨s, tends⟩ := leads.holds
  cases ready : Upkeep.readied v.collection v.ownIndex with
  | error cause =>
    obtain ⟨cause', refused⟩ := Database.execute_createCommand_refused ready
      (.arrive (.command (v.ownIndex.createCommand v.collection)) w'.store)
    have answered := Database.perform_of_online tends.store.online
      (.command (v.ownIndex.createCommand v.collection))
    rw [refused] at answered
    rw [answered]
    have next : v.Tends embedder s { w' with
        store := .arrive (.command (v.ownIndex.createCommand v.collection)) w'.store } :=
      ⟨tends.store.arrive _, tends.indexes, tends.ready, tends.verdict, tends.memories⟩
    exact ⟨next.leads tends.store (Nat.le_refl _) id, nofun⟩
  | ok _ =>
    obtain ⟨named, valid⟩ := Upkeep.readied_eq_ok.mp ready
    have alone : w'.store.indexes v.collection = [v.ownIndex.spec] ∨
        w'.store.indexes v.collection = [] := by
      cases s with
      | some l => exact .inl (tends.indexes rfl)
      | none => exact .inr tends.store.bare
    obtain ⟨reply, passed, indexes⟩ :=
      Database.perform_createCommand tends.store.online named valid alone
    have left := (tends.store.arrive
      (.command (v.ownIndex.createCommand v.collection))).createCommand named valid
    rw [← Database.perform_of_online tends.store.online] at left
    have next : v.Tends embedder (some (s.getD .empty))
        { w' with store := (DocumentStore.perform
          (.command (v.ownIndex.createCommand v.collection)) w'.store).2 } := by
      refine ⟨left, fun _ => indexes, fun _ => ready, fun _ => rfl, fun e member => ?_⟩
      obtain ⟨faithful, n, issued, known⟩ := tends.memories e member
      exact ⟨faithful, n, issued.trans (Database.issued_perform ..), known⟩
    refine ⟨next.leads tends.store (Database.issued_perform ..) fun _ => rfl,
      fun _ w'' _ further => further.allows.2 ((isSome_find? left).trans rfl)⟩

theorem abides_inspect : (Upkeep.inspect v.collection).Abides (v.tending embedder)
    (fun observed w => observed.isSome = true → (w.store.find? v.collection).isSome = true) w := by
  rw [Task.Abides, Upkeep.inspect_eq]
  intro w leads
  obtain ⟨s, tends⟩ := leads.holds
  have looked : (v.tending embedder).Leads w
      (w.called (.command (Document.command listIndexesCommand v.collection))) :=
    tends.called (tends.store.arrive _) (Database.indexes_perform (.inl rfl) _ _) rfl tends.memories
  refine ⟨looked, fun w' further observed answered seen => ?_⟩
  have shown := congrArg Prod.fst (Upkeep.run_inspect_online tends.store.online v.collection)
  rw [Upkeep.run_inspect_fst] at shown
  cases s with
  | some l => exact (looked.trans further).allows.2 ((isSome_find? tends.store).trans rfl)
  | none =>
    -- without a collection there is nothing to be seen
    have unseen : w.store.reported v.collection = none := by
      rw [Database.reported, tends.store.bare]
      rfl
    rw [unseen] at shown
    replace shown := answered.symm.trans shown
    split at shown
    · cases shown
    · obtain rfl := Except.ok.inj shown
      cases seen

theorem abides_ensureIndex : v.ensureIndex.Abides (v.tending embedder)
    (fun _ w => (w.store.find? v.collection).isSome = true) w := by
  have looks : (Task.verdict v.collection).Abides (v.tending embedder) (fun known w =>
      known.isSome = true → (w.store.find? v.collection).isSome = true) w := by
    refine fun w leads => ⟨.refl leads.holds, fun w' further known same isSome => ?_⟩
    obtain ⟨s, tends⟩ := leads.holds
    obtain rfl := Except.ok.inj same
    exact further.allows.2 ((isSome_find? tends.store).trans (tends.verdict isSome))
  refine looks.bind fun known w leads there => ?_
  cases known with
  | some status => exact Task.abides_ofResult fun _ w' _ further => further.allows.2 (there rfl)
  | none =>
    refine abides_inspect.bind fun observed w leads there => ?_
    refine Task.Abides.bind (M := fun _ w => (w.store.find? v.collection).isSome = true) ?_
      fun status w leads there => ?_
    · cases observed with
      | none => exact abides_create.bind fun _ w _ there =>
          Task.abides_ofResult (r := .ok _) fun _ w' _ further => further.allows.2 there
      | some o => exact Task.abides_ofResult (r := .ok _) fun _ w' _ further =>
          further.allows.2 (there rfl)
    · intro w' further
      have there := further.allows.2 there
      obtain ⟨s, tends⟩ := further.holds
      have recorded := tends.remembered there status
      exact ⟨recorded, fun w'' last _ _ => (recorded.trans last).allows.2 there⟩

theorem minded_tending (v : VectorStore) (embedder : Embedder) :
    (v.tending embedder).Minded v embedder
      (fun w => (w.store.find? v.collection).isSome = true) where
  numbered allows := allows.1
  ensures _ := abides_ensureIndex
  stays leads := leads.allows.2
  reads := by
    rintro c w ⟨s, tends⟩ unchanged
    have same := Database.perform_of_online tends.store.online c
    have left := (tends.store.arrive c)
    rw [← unchanged (.arrive c w.store)] at left
    refine tends.called left ?_ rfl tends.memories
    rw [World.called, same, unchanged]
    rfl
  issues := fun ⟨_, tends⟩ => tends.numbered.leads tends.store (Nat.le_succ _) id
  writes := fun ⟨_, tends⟩ writes opened => tends.writes writes opened

theorem Tends.after {α : Type} {t : Task α} (tends : v.Tends embedder s w)
    (observes : t.Observes (v.tending embedder)) :
    (v.tending embedder).Leads w (Task.run t w).2 :=
  ((observes w).run ⟨s, tends⟩).1

theorem tends_during (v : VectorStore) (embedder : Embedder) (lifetime : Int)
    (coordinator : Coordinator) (errands : List Errand) (schedule : List Nat) :
    ∃ s, v.Tends embedder s
      (Service.during (.direct v embedder lifetime coordinator) errands schedule) := by
  have start : v.Tends embedder none ⟨.empty, .empty⟩ :=
    ⟨⟨rfl, rfl, fun _ _ => rfl⟩, nofun, nofun, nofun, nofun⟩
  exact ((minded_tending v embedder).during _ _ ⟨none, start⟩ errands schedule).holds

end VectorStore

namespace Service

end Service

end MemoryBank
