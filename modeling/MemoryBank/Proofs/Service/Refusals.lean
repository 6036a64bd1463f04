import MemoryBank.Proofs.Service.Errands
import MemoryBank.Proofs.Store.Refusals
import MemoryBank.Service.Together

set_option autoImplicit false

/-!
A request that is refused as invalid has done nothing. The checks of an operation come first, in
tasks that leave the world alone, and no store call and nothing after it refuses anything.
-/

namespace MemoryBank

/-- All as it was before; only new ids may have been made. -/
structure World.Untouched (w w' : World Database) : Prop where
  log : w'.store.log = w.store.log
  collections : w'.store.collections = w.store.collections
  verdicts : w'.verdicts = w.verdicts

namespace World.Untouched

theorem refl (w : World Database) : w.Untouched w := ⟨rfl, rfl, rfl⟩

theorem trans {w w' w'' : World Database} (first : w.Untouched w') (behind : w'.Untouched w'') :
    w.Untouched w'' :=
  ⟨behind.log.trans first.log, behind.collections.trans first.collections,
    behind.verdicts.trans first.verdicts⟩

end World.Untouched

namespace Task

variable {α β : Type}

def Serves (t : Task α) : Prop := ∀ w : World Database, Accepted (run t w).1

def Idles (t : Task α) : Prop := ∀ w : World Database, w.Untouched (run t w).2

/-- If it refuses, then before it touches the world. -/
def RefusesFirst (t : Task α) : Prop :=
  ∀ (w : World Database) (fault : Invalid),
    (run t w).1 = .error (.validation fault) → w.Untouched (run t w).2

theorem serves_ofResult {r : Result α} (accepted : Accepted r) : (ofResult r).Serves :=
  fun _ => accepted

theorem serves_call (c : Call) : (call c).Serves := fun w => Database.accepted_perform c w.store

theorem Serves.bind {t : Task α} {f : α → Task β} (first : t.Serves)
    (behind : ∀ a, (f a).Serves) : (t >>= f).Serves := by
  intro w
  rw [run_bind]
  have accepted := first w
  cases outcome : run t w with
  | mk r w' =>
    cases r with
    | error cause => exact accepted.passed_on (congrArg Prod.fst outcome)
    | ok a => exact behind a w'

theorem Serves.refusesFirst {t : Task α} (serves : t.Serves) : t.RefusesFirst :=
  fun w fault refused => absurd refused (serves w fault)

theorem idles_ofResult (r : Result α) : (ofResult r).Idles := fun w => .refl w

theorem idles_newId : newId.Idles := fun _ => ⟨rfl, rfl, rfl⟩

theorem refusesFirst_ofResult (r : Result α) : (ofResult r).RefusesFirst :=
  fun w _ _ => idles_ofResult r w

theorem Idles.bind {t : Task α} {f : α → Task β} (first : t.Idles)
    (behind : ∀ a, (f a).RefusesFirst) : (t >>= f).RefusesFirst := by
  intro w fault
  rw [run_bind]
  have alone := first w
  cases outcome : run t w with
  | mk r w' =>
    rw [outcome] at alone
    cases r with
    | error cause => exact fun _ => alone
    | ok a => exact fun refused => alone.trans (behind a w' fault refused)

theorem RefusesFirst.bind {t : Task α} {f : α → Task β} (first : t.RefusesFirst)
    (behind : ∀ a, (f a).Serves) : (t >>= f).RefusesFirst := by
  intro w fault
  rw [run_bind]
  have early := first w fault
  cases outcome : run t w with
  | mk r w' =>
    rw [outcome] at early
    cases r with
    | error cause => exact fun refused => early (congrArg Except.error (Except.error.inj refused))
    | ok a => exact fun refused => absurd refused (behind a w' fault)

/-- What refuses behind a task that does not leaves all as that task has left it. -/
theorem Serves.left_by_bind {t : Task α} {f : α → Task β} (first : t.Serves)
    (behind : ∀ a, (f a).RefusesFirst) {w : World Database} {fault : Invalid}
    (refused : (run (t >>= f) w).1 = .error (.validation fault)) :
    (run t w).2.Untouched (run (t >>= f) w).2 := by
  have accepted := first w fault
  rw [run_bind] at refused ⊢
  cases outcome : run t w with
  | mk r w' =>
    rw [outcome] at accepted refused
    cases r with
    | error cause => exact absurd (congrArg Except.error (Except.error.inj refused)) accepted
    | ok a => exact behind a w' fault refused

end Task

theorem Database.perform_listIndexes (name : String) (db : Database) :
    (DocumentStore.perform (.command (Document.command listIndexesCommand name)) db).2 =
      { db with log := db.log ++ [⟨listIndexesCommand, name⟩] } := by
  change (answer _ (arrive _ db)).2 = _
  unfold answer
  split <;> rfl

namespace Upkeep

theorem serves_inspect (name : String) : (inspect name).Serves := by
  intro w
  rw [run_inspect_fst]
  unfold inspected
  split
  · exact .ok _
  · next cause failed =>
    split
    · exact .ok none
    · exact (Database.accepted_perform _ w.store).passed_on failed

theorem serves_ensure (name : String) (d : IndexDescriptor) : (ensure name d).Serves := by
  refine Task.Serves.bind (t := Task.verdict name) (fun _ => .ok _) fun known => ?_
  cases known with
  | some status => exact Task.serves_ofResult (.ok status)
  | none =>
    refine (serves_inspect name).bind fun observed => Task.Serves.bind ?_ fun status => ?_
    · cases observed with
      | none => exact (Task.serves_call _).bind fun _ => Task.serves_ofResult (.ok _)
      | some observed => exact Task.serves_ofResult (.ok _)
    · intro w
      rw [Task.run_remember]
      split <;> exact .ok _

end Upkeep

namespace StoredMemory

theorem accepted_ofDocument (score : Option Single) (d : Document) :
    Accepted (ofDocument score d) := by
  have payload (o : Document) : Accepted (Payload.ofDocument o) := by
    unfold Payload.ofDocument
    split <;> simp
  unfold ofDocument
  split
  · exact .store .noId
  · split <;> simp [payload]

theorem accepted_ofRow (kind : IndexKind) (row : Document) : Accepted (ofRow kind row) := by
  unfold ofRow
  simp only
  split
  · exact accepted_ofDocument _ _
  · exact .store .noStoredDocument

end StoredMemory

namespace VectorStore

variable (v : VectorStore)

theorem refusesFirst_insert (ids : List String) (vectors : List Embedding)
    (payloads : List Payload) : (v.insert ids vectors payloads).RefusesFirst := by
  refine (Task.idles_ofResult _).bind fun documents => ?_
  split
  · exact Task.refusesFirst_ofResult (.ok ())
  · refine Task.Serves.refusesFirst ((Upkeep.serves_ensure _ _).bind fun _ => ?_)
    exact (Task.serves_call _).bind fun _ => Task.serves_ofResult (.ok ())

theorem refusesFirst_search (vector : Embedding) (count : Nat) (filters : Filters) :
    (v.search vector count filters).RefusesFirst := by
  unfold search
  split
  · exact Task.refusesFirst_ofResult (.error (.validation .zeroHits))
  refine (Task.idles_ofResult _).bind fun _ => (Task.idles_ofResult _).bind fun filter => ?_
  refine Task.Serves.refusesFirst ((Upkeep.serves_ensure _ _).bind fun status => ?_)
  refine (Task.serves_call _).bind fun rows => Task.serves_ofResult ?_
  refine Accepted.bind_iff.mpr ⟨Accepted.mapM fun row _ => ?_, fun _ _ => .ok _⟩
  exact StoredMemory.accepted_ofRow status.effective row

theorem serves_get (id : String) : (v.get id).Serves := by
  refine (Task.serves_call _).bind fun found => ?_
  cases found with
  | none => exact Task.serves_ofResult (.missing _)
  | some d => exact Task.serves_ofResult (StoredMemory.accepted_ofDocument none d)

theorem refusesFirst_list (filters : Filters) (limit : Nat) :
    (v.list filters limit).RefusesFirst := by
  refine (Task.idles_ofResult _).bind fun filter => ?_
  split
  · exact Task.refusesFirst_ofResult (.ok [])
  refine Task.Serves.refusesFirst ((Task.serves_call _).bind fun ds => Task.serves_ofResult ?_)
  exact Accepted.mapM fun d _ => StoredMemory.accepted_ofDocument none d

theorem refusesFirst_update (id : String) (change : Change) :
    (v.update id change).RefusesFirst := by
  unfold update
  split
  · exact Task.refusesFirst_ofResult (.error (.validation .emptyChange))
  refine (Task.idles_ofResult _).bind fun fields => ?_
  refine Task.Serves.refusesFirst ((Task.serves_call _).bind fun count => ?_)
  split
  · exact Task.serves_ofResult (.missing _)
  · exact Task.serves_ofResult (.ok ())

theorem calls_of_createCollection {name : String} {dimensions : Nat} {w : World Database}
    {fault : Invalid}
    (refused : (Task.run (v.createCollection name dimensions) w).1 = .error (.validation fault)) :
    ∃ calls, (calls = [] ∨ calls = [⟨listIndexesCommand, name⟩]) ∧
      World.Untouched { w with store := { w.store with log := w.store.log ++ calls } }
        (Task.run (v.createCollection name dimensions) w).2 := by
  have ready : Task.Serves (do
      Task.call (.createCollection name)
      let _ ← Upkeep.ensure name (v.descriptor name dimensions)) :=
    (Task.serves_call _).bind fun _ =>
      (Upkeep.serves_ensure _ _).bind fun _ => Task.serves_ofResult (.ok ())
  unfold createCollection at refused ⊢
  split at refused
  · next zero =>
    refine ⟨[], .inl rfl, ?_⟩
    rw [if_pos zero, List.append_nil]
    exact .refl w
  · next some =>
    rw [if_neg some]
    have left := (Upkeep.serves_inspect name).left_by_bind (fun observed => ?_) refused
    · rw [Upkeep.run_inspect, Database.perform_listIndexes] at left
      exact ⟨[⟨listIndexesCommand, name⟩], .inr rfl, left⟩
    · split
      · split
        -- the index has other dimensions
        · exact Task.refusesFirst_ofResult (.error (.validation _))
        · exact ready.refusesFirst
      · exact ready.refusesFirst

end VectorStore

namespace Direct

variable (v : VectorStore) (embedder : Embedder)

theorem refusesFirst_add (input : MemoryInput) (scope : Scope) (metadata : Object) :
    (add v embedder input scope metadata).RefusesFirst := by
  unfold add
  simp only
  split
  · exact Task.refusesFirst_ofResult (.ok none)
  refine (Task.idles_ofResult _).bind fun _ => (Task.idles_ofResult _).bind fun payload => ?_
  refine (Task.idles_ofResult _).bind fun vector => Task.idles_newId.bind fun id => ?_
  exact (v.refusesFirst_insert _ _ _).bind fun _ => Task.serves_ofResult (.ok _)

theorem refusesFirst_search (query : String) (scope : Scope) (limit : Nat) (filters : Filters) :
    (search v embedder query scope limit filters).RefusesFirst :=
  (Task.idles_ofResult _).bind fun vector =>
    (v.refusesFirst_search vector limit _).bind fun _ => Task.serves_ofResult (.ok _)

theorem refusesFirst_getAll (scope : Scope) (limit : Nat) :
    (getAll v scope limit).RefusesFirst :=
  (v.refusesFirst_list scope.filters limit).bind fun _ => Task.serves_ofResult (.ok _)

theorem refusesFirst_update (id content : String) :
    (update v embedder id content).RefusesFirst :=
  (Task.idles_ofResult _).bind fun _ => v.refusesFirst_update id _

end Direct

/-- A batch of this size fails if it is too large, before anything is done, and else it does not. -/
def Coordinator.TurnsAway {α : Type} (c : Coordinator) (size : Nat)
    (batch : World Database → Result α × World Database) : Prop :=
  ∀ w cause w', batch w = (.error cause, w') ↔
    c.maxSize < size ∧ cause = .validation (.batchTooLarge size c.maxSize) ∧ w' = w

theorem Coordinator.TurnsAway.of_checked {α : Type} {c : Coordinator} {size : Nat}
    {batch : World Database → Result α × World Database}
    (oversized : ∀ w, c.maxSize < size →
      batch w = (.error (.validation (.batchTooLarge size c.maxSize)), w))
    (fitting : ∀ w, ¬c.maxSize < size → ∃ a w', batch w = (.ok a, w')) :
    c.TurnsAway size batch := by
  intro w cause w'
  by_cases many : c.maxSize < size
  · rw [oversized w many]
    simp [many, eq_comm]
  · obtain ⟨a, w'', passed⟩ := fitting w many
    simp [passed, many]

structure VectorStore.RefusesFirst (v : VectorStore) : Prop where
  insert : ∀ ids vectors payloads, (v.insert ids vectors payloads).RefusesFirst
  search : ∀ vector count filters, (v.search vector count filters).RefusesFirst
  list : ∀ filters limit, (v.list filters limit).RefusesFirst
  update : ∀ id change, (v.update id change).RefusesFirst
  createCollection : ∀ (name : String) (dimensions : Nat) (w : World Database) (fault : Invalid),
    (Task.run (v.createCollection name dimensions) w).1 = .error (.validation fault) →
      ∃ calls, (calls = [] ∨ calls = [⟨listIndexesCommand, name⟩]) ∧
        World.Untouched { w with store := { w.store with log := w.store.log ++ calls } }
          (Task.run (v.createCollection name dimensions) w).2

namespace Service

structure RefusesFirst (s : Service Program) : Prop where
  add : ∀ now r, Task.RefusesFirst (s.add now r)
  search : ∀ now r, Task.RefusesFirst (s.search now r)
  getAll : ∀ now scope limit, Task.RefusesFirst (s.getAll now scope limit)
  update : ∀ id content, Task.RefusesFirst (s.update id content)
  batchAdd : ∀ now rs, s.coordinator.TurnsAway rs.length (Task.run (s.batchAdd now rs))
  batchSearch : ∀ now rs, s.coordinator.TurnsAway rs.length (Task.run (s.batchSearch now rs))
  batchDelete : ∀ ids, s.coordinator.TurnsAway ids.length (Task.run (s.batchDelete ids))
  -- also where the items run side by side
  together : ∀ {α : Type} (items : List (Task α)),
    s.coordinator.TurnsAway items.length (s.together items)

theorem turnsAway_inTurn {α : Type} (s : Service Program) (items : List (Task α)) :
    s.coordinator.TurnsAway items.length (Task.run (s.inTurn items)) := by
  refine .of_checked (fun w many => ?_) fun w fits => ?_
  · rw [inTurn, Coordinator.checkSize, if_pos many]
    rfl
  · rw [inTurn, Coordinator.checkSize, if_neg fits]
    have passed : Task.run (ExceptT.mk (pure (Except.ok ()))) w = (.ok (), w) := rfl
    rw [Task.run_bind, passed]
    simp only
    rw [Task.run_bind, Task.run_lift]
    exact ⟨_, _, rfl⟩

theorem turnsAway_together {α : Type} (s : Service Program) (items : List (Task α)) :
    s.coordinator.TurnsAway items.length (s.together items) := by
  refine .of_checked (fun w many => ?_) fun w fits => ?_
  · rw [together, Coordinator.checkSize, if_pos many]
  · rw [together, Coordinator.checkSize, if_neg fits]
    exact ⟨_, _, rfl⟩

variable (v : VectorStore) (embedder : Embedder) (lifetime : Int) (coordinator : Coordinator)

/-- What is refused as invalid is refused before the store is called. Only for its dimensions a
collection is refused after its indexes have been listed, and a batch that is too large is the only
one that is turned away. -/
theorem refusals_come_first :
    v.RefusesFirst ∧ (direct v embedder lifetime coordinator).RefusesFirst := by
  refine ⟨⟨v.refusesFirst_insert, v.refusesFirst_search, v.refusesFirst_list,
    v.refusesFirst_update, fun _ _ _ _ => v.calls_of_createCollection⟩, ?_⟩
  constructor
  case add =>
    intro now r
    exact (Task.idles_ofResult r.validate).bind fun _ =>
      (Task.idles_ofResult _).bind fun metadata =>
        (Direct.refusesFirst_add v embedder r.messages r.scope metadata).bind fun _ =>
          Task.serves_ofResult (.ok _)
  case search =>
    intro now r
    exact (Task.idles_ofResult r.validate).bind fun _ =>
      (Direct.refusesFirst_search v embedder r.query r.scope r.limit _).bind fun _ =>
        Task.serves_ofResult (.ok _)
  case getAll =>
    intro now scope limit
    exact (Task.idles_ofResult scope.validate).bind fun _ =>
      (Direct.refusesFirst_getAll v scope limit).bind fun _ => Task.serves_ofResult (.ok _)
  case update =>
    intro id content
    unfold Service.update
    split
    · exact Task.refusesFirst_ofResult (.error (.validation .blankContent))
    · exact (Direct.refusesFirst_update v embedder id content).bind fun _ =>
        (v.serves_get id).bind fun _ => Task.serves_ofResult (.ok _)
  case batchAdd =>
    intro now rs
    have turned := turnsAway_inTurn (direct v embedder lifetime coordinator)
      (addTasks (direct v embedder lifetime coordinator) now rs)
    rwa [addTasks, List.length_map] at turned
  case batchSearch =>
    intro now rs
    have turned := turnsAway_inTurn (direct v embedder lifetime coordinator)
      (searchTasks (direct v embedder lifetime coordinator) now rs)
    rwa [searchTasks, List.length_map] at turned
  case batchDelete =>
    intro ids
    have turned := turnsAway_inTurn (direct v embedder lifetime coordinator)
      (deleteTasks (direct v embedder lifetime coordinator) ids)
    rwa [deleteTasks, List.length_map] at turned
  case together => exact fun items => turnsAway_together _ items

/-- A collection with an index at one dimension is not made again at two. -/
theorem refused_for_dimensions :
    ∃ (v : VectorStore) (w w' : World Database),
      w = (Task.run v.ensureIndex ⟨.empty, .empty⟩).2 ∧
      Task.run (v.createCollection "memories" 2) w =
        (.error (.validation (.otherDimensions "memories" 1 2)), w') ∧
      w'.store.collections = w.store.collections ∧ w'.verdicts = w.verdicts := by
  have refused : (Task.run
      (VectorStore.createCollection ⟨⟨"memories", 1, .diskann, 0, 50⟩⟩ "memories" 2)
      (Task.run (VectorStore.ensureIndex ⟨⟨"memories", 1, .diskann, 0, 50⟩⟩)
        ⟨Database.empty, .empty⟩).2).1 =
      .error (.validation (.otherDimensions "memories" 1 2)) := by rfl
  obtain ⟨calls, -, left⟩ :=
    (refusals_come_first _ (.ofLetters 1) 0 (.ofSize 50)).1.createCollection _ _ _ _ refused
  exact ⟨_, _, _, rfl, Prod.ext refused rfl, left.collections, left.verdicts⟩

end Service

end MemoryBank
