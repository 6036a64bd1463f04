import MemoryBank.Proofs.Batch.Reporting
import MemoryBank.Proofs.Service.Adding
import MemoryBank.Proofs.Service.Tending

set_option autoImplicit false

/-!
Batches whose items are carried out one after another, in any order; the service's own batches take
them as they come. What becomes of an addition is said by the request and the id it is given; of the
deletions of one memory the first succeeds.
-/

namespace MemoryBank

namespace Coordinator

variable {α : Type}

theorem nodup_indices {β : Type} {batch : List β} {items : List (β × Nat)}
    (permuted : items.Perm batch.zipIdx) : (items.map Prod.snd).Nodup := by
  rw [(permuted.map Prod.snd).nodup_iff, List.zipIdx_map_snd]
  exact List.nodup_range'

/-- The order in which the items of a batch end is not seen in the response. -/
theorem gather_of_perm {β : Type} {batch : List β} {items : List (β × Nat)}
    (permuted : items.Perm batch.zipIdx) (outcome : Nat → β → Result α) :
    (BatchResponse.ofResults (gather items.length timedOut
      (items.map fun x => ⟨x.2, .ofResult (outcome x.2 x.1)⟩))).Tells batch outcome := by
  have size : items.length =
      (batch.mapIdx fun i b => (⟨none, .ofResult (outcome i b)⟩ : Job α)).length := by
    rw [permuted.length_eq, List.length_zipIdx, List.length_mapIdx]
  refine BatchResponse.tells_of_reports ?_
  rw [size, gather_eq_reports]
  · exact .of_reports _ _
  intro x
  simp only [List.mem_map, permuted.mem_iff, Prod.exists, List.mem_zipIdx_iff_getElem?,
    List.getElem?_mapIdx]
  constructor
  · rintro ⟨b, i, here, rfl⟩
    exact ⟨_, by rw [here, Option.map_some], trivial, rfl⟩
  · rintro ⟨job, made, -, ending⟩
    obtain ⟨b, here, rfl⟩ := Option.map_eq_some_iff.mp made
    exact ⟨b, x.index, here, congrArg (Completion.mk x.index) ending.symm⟩

end Coordinator

def Document.among (ids : List String) (d : Document) : Bool := d.id?.any (ids.contains ·)

theorem Entry.among_document (id : String) (e : Entry) :
    Document.among [id] e.document = (e.id == id) := by
  change [id].contains e.id = _
  rw [List.contains_cons, List.contains_nil, Bool.or_false]

theorem Document.among_cons (id : String) (ids : List String) (d : Document) :
    among (id :: ids) d = (among [id] d || among ids d) := by
  unfold among
  cases d.id? with
  | none => rfl
  | some own => simp

namespace VectorStore

def stored (v : VectorStore) (w : World Database) : List Document := w.store.documents v.collection

variable {v : VectorStore} {embedder : Embedder} {s : Option Ledger} {w : World Database}

theorem Tends.stored (tends : v.Tends embedder s w) : v.stored w = (s.getD .empty).documents :=
  tends.store.documents

theorem Tends.ids (tends : v.Tends embedder s w) :
    (v.stored w).filterMap (·.id?) = (s.getD .empty).ids := by
  rw [tends.stored, Ledger.id?_documents]

/-- Whether the index can be seen to does not depend on what has happened before. -/
theorem Tends.run_ensureIndex (tends : v.Tends embedder s w) :
    (fun _ => ()) <$> (Task.run v.ensureIndex w).1 = Upkeep.readied v.collection v.ownIndex := by
  cases known : w.verdicts.get? v.collection with
  | some status =>
    have ready := tends.ready (tends.verdict (known ▸ rfl))
    rw [ensureIndex, run_ensure_of_standing known, ready]
    rfl
  | none =>
    cases s with
    | none =>
      obtain ⟨log, ran⟩ :=
        Upkeep.run_ensure_bare tends.store.online known tends.store.bare v.ownIndex
      refine (congrArg (fun r => (fun _ => ()) <$> r.1) ran).trans ?_
      cases Upkeep.readied v.collection v.ownIndex <;> rfl
    | some l =>
      have ready := tends.ready rfl
      obtain ⟨named, -⟩ := Upkeep.readied_eq_ok.mp ready
      have marked : IndexSpec.onVectors v.ownIndex.spec = true := rfl
      obtain ⟨o, shown⟩ := ObservedIndex.exists_ofSpec? marked
      have seen : w.store.reported v.collection = some o := by
        rw [Database.reported, tends.indexes rfl, List.findSome?_singleton, shown]
      have ran := Upkeep.run_ensure_seen tends.store.online named known seen v.ownIndex
      exact (congrArg (fun r => (fun _ => ()) <$> r.1) ran).trans ready.symm

theorem run_insert_valid {r : Record} (valid : r.validate v.settings.dimensions = .ok ()) :
    Task.run (v.insert [r.id] [r.vector] [r.payload]) w = Task.run (do
      let _ ← v.ensureIndex
      let _ ← Task.call (.insert v.collection [r.toDocument])) w := by
  unfold VectorStore.insert
  rw [v.documents_record, valid]
  rfl

/-- What a record that is inserted has to be, and that its collection has an index. -/
def admits (v : VectorStore) (r : Record) : Result Unit := do
  r.validate v.settings.dimensions
  Upkeep.readied v.collection v.ownIndex

theorem Tends.run_call_insert {l : Ledger} (tends : v.Tends embedder (some l) w) {r : Record}
    (new : r.id ∉ (v.stored w).filterMap (·.id?)) :
    (fun _ => ()) <$> (Task.run (Task.call (.insert v.collection [r.toDocument])) w).1 = .ok () ∧
      v.stored (Task.run (Task.call (.insert v.collection [r.toDocument])) w).2 =
        v.stored w ++ [r.toDocument] := by
  rw [tends.ids] at new
  have added : l.addAll v.collection [.ofRecord r] = (.ok (), l.add (.ofRecord r) new) :=
    dif_pos new
  obtain ⟨replies, left⟩ :=
    (tends.store.arrive (.insert v.collection [r.toDocument])).insert [.ofRecord r]
  rw [added] at replies left
  rw [Task.run_call, Database.perform_of_online tends.store.online, tends.stored]
  exact ⟨replies, left.documents.trans (l.documents_add (.ofRecord r) new)⟩

theorem admits_of_named (v : VectorStore) {id other : String} (named : other.isEmpty = false)
    {vector : Embedding} {payload : Payload} (admitted : v.admits ⟨id, vector, payload⟩ = .ok ()) :
    v.admits ⟨other, vector, payload⟩ = .ok () := by
  obtain ⟨_, valid, ready⟩ := Fallible.bind_eq_ok.mp admitted
  obtain ⟨-, own⟩ := Record.validate_eq_ok.mp valid
  exact Fallible.bind_eq_ok.mpr ⟨(), Record.validate_eq_ok.mpr ⟨named, own⟩, ready⟩

theorem Tends.run_insert (tends : v.Tends embedder s w) {r : Record}
    (new : r.id ∉ (v.stored w).filterMap (·.id?)) :
    (Task.run (v.insert [r.id] [r.vector] [r.payload]) w).1 = v.admits r ∧
      v.stored (Task.run (v.insert [r.id] [r.vector] [r.payload]) w).2 =
        v.stored w ++ ((v.admits r).toOption.map fun _ => r.toDocument).toList := by
  unfold admits
  cases valid : r.validate v.settings.dimensions with
  | error cause =>
    unfold VectorStore.insert
    rw [v.documents_record, valid]
    exact ⟨rfl, (List.append_nil _).symm⟩
  | ok _ =>
    have result := tends.run_ensureIndex
    have kept : v.stored (Task.run v.ensureIndex w).2 = v.stored w :=
      (v.keeps_ensureIndex w).documents v.collection
    have held : (v.tending embedder).Holds w := ⟨s, tends⟩
    obtain ⟨leads, opened⟩ := abides_ensureIndex.run held
    rw [run_insert_valid valid, Fallible.ok_bind, ← result, Task.run_bind]
    cases ran : Task.run v.ensureIndex w with
    | mk answer w' =>
      rw [ran] at kept leads opened
      cases answer with
      | error cause => exact ⟨rfl, kept.trans (List.append_nil _).symm⟩
      | ok status =>
        obtain ⟨s', tends'⟩ := leads.holds
        obtain ⟨l, rfl⟩ := Option.isSome_iff_exists.mp
          ((isSome_find? tends'.store).symm.trans (opened status rfl))
        rw [← kept] at new ⊢
        simp only [Task.run_discard]
        exact tends'.run_call_insert new

end VectorStore

/-- The world with `n` ids made in it. -/
def World.numbered (w : World Database) (n : Nat) : World Database :=
  { w with store := { w.store with issued := n } }

theorem VectorStore.Tends.renumbered {v : VectorStore} {embedder : Embedder} {s : Option Ledger}
    {w : World Database} (tends : v.Tends embedder s w) {n : Nat} (later : w.store.issued ≤ n) :
    v.Tends embedder s (w.numbered n) := by
  refine ⟨⟨tends.store.online, tends.store.own, tends.store.others⟩, tends.indexes, tends.ready,
    tends.verdict, fun e member => ?_⟩
  obtain ⟨faithful, m, issued, named⟩ := tends.memories e member
  exact ⟨faithful, m, issued.trans later, named⟩

theorem Direct.add_eq {v : VectorStore} {embedder : Embedder} {input : MemoryInput} {scope : Scope}
    {metadata : Object} (text : input.isBlank = false) (owned : scope.validate = .ok ()) :
    Direct.add v embedder input scope metadata = (do
      let payload ← Task.ofResult (Direct.payload input.toText scope metadata)
      let vector ← Task.ofResult (embedder.embedOne input.toText)
      let id ← Task.newId
      v.insert [id] [vector] [payload]
      return some ⟨some id, input.toText, .add⟩) := by
  unfold Direct.add
  simp only
  rw [if_neg (by simpa [MemoryInput.isBlank] using text), owned]
  rfl

namespace Service

section Adding

variable (v : VectorStore) (embedder : Embedder) (lifetime : Int) (coordinator : Coordinator)
  (now : Int)

/-- What is made of a request before there is an id for it. -/
def draft (r : AddRequest) : Result (Payload × Embedding) := do
  r.validate
  let metadata ← (direct v embedder lifetime coordinator).metadata now r
  let payload ← Direct.payload r.messages.toText r.scope metadata
  let vector ← embedder.embedOne r.messages.toText
  return (payload, vector)

/-- What is stored for a request under this id. -/
def record (id : String) (r : AddRequest) : Result Record := do
  let (payload, vector) ← draft v embedder lifetime coordinator now r
  v.admits ⟨id, vector, payload⟩
  return ⟨id, vector, payload⟩

def added (id : String) (r : AddRequest) : Result AddOutcome :=
  (fun _ => ⟨some id, r.messages.toText, .add⟩) <$>
    record v embedder lifetime coordinator now id r

end Adding

variable {v : VectorStore} {embedder : Embedder} (lifetime : Int) (coordinator : Coordinator)
  {s : Option Ledger} {w : World Database}

theorem identifier_not_stored (tends : v.Tends embedder s w) {n : Nat} (new : w.store.issued < n) :
    identifier n ∉ (v.stored w).filterMap (·.id?) := by
  rw [tends.ids]
  intro member
  obtain ⟨e, known, named⟩ := List.mem_map.mp member
  obtain ⟨m, issued, same⟩ := (tends.memories e known).2
  have same : m = n := identifier_injective (same.symm.trans named)
  omega

/-- An addition has three parts: what the request comes to, an id for it, and the insertion. -/
theorem run_add_eq (now : Int) (r : AddRequest) (w : World Database) :
    Task.run (add (.direct v embedder lifetime coordinator) now r) w = Task.run (do
      let (payload, vector) ← Task.ofResult (draft v embedder lifetime coordinator now r)
      let id ← Task.newId
      v.insert [id] [vector] [payload]
      return ⟨some id, r.messages.toText, .add⟩) w := by
  unfold draft
  cases valid : r.validate with
  | error cause => exact run_add_of_invalid (.inl valid)
  | ok _ =>
    cases stamped : metadata (.direct v embedder lifetime coordinator) now r with
    | error cause => exact run_add_of_invalid (.inr ⟨valid, stamped⟩)
    | ok metadata =>
      obtain ⟨_, owned, -⟩ := Fallible.bind_eq_ok.mp valid
      have shape : add (.direct v embedder lifetime coordinator) now r = (do
          let outcome ← Direct.add v embedder r.messages r.scope metadata
          return outcome.getD .nothing) := by
        unfold add
        rw [valid, stamped]
        rfl
      rw [shape, Direct.add_eq (AddRequest.validate_eq_ok valid).1 owned]
      simp only [Fallible.ok_bind]
      cases Direct.payload r.messages.toText r.scope metadata with
      | error cause => rfl
      | ok payload =>
        cases embedder.embedOne r.messages.toText with
        | error cause => rfl
        | ok vector =>
          simp only [Task.run_bind, Task.run_ofResult, Task.run_newId,
            Fallible.ok_bind, pure, Except.pure]
          rcases Task.run (v.insert [(DocumentStore.newId w.store).1] [vector] [payload])
            { w with store := (DocumentStore.newId w.store).2 } with ⟨_ | _, w'⟩ <;> rfl

theorem run_add (tends : v.Tends embedder s w) (now : Int) (r : AddRequest) :
    let id := identifier (w.store.issued + 1)
    (Task.run (add (.direct v embedder lifetime coordinator) now r) w).1 =
        added v embedder lifetime coordinator now id r ∧
      v.stored (Task.run (add (.direct v embedder lifetime coordinator) now r) w).2 =
        v.stored w ++ ((record v embedder lifetime coordinator now id r).toOption.map
          Record.toDocument).toList := by
  intro id
  rw [run_add_eq, added, record, Task.run_bind, Task.run_ofResult]
  cases draft v embedder lifetime coordinator now r with
  | error cause => exact ⟨rfl, (List.append_nil _).symm⟩
  | ok made =>
    obtain ⟨payload, vector⟩ := made
    obtain ⟨answered, left⟩ := tends.numbered.run_insert (r := ⟨id, vector, payload⟩)
      (identifier_not_stored tends (Nat.lt_succ_self _))
    simp only [Fallible.ok_bind, Task.run_bind, Task.run_newId]
    have ran : Task.run (v.insert [(DocumentStore.newId w.store).1] [vector] [payload])
        { w with store := (DocumentStore.newId w.store).2 } = (v.admits ⟨id, vector, payload⟩, _) :=
      Prod.ext answered rfl
    have kept : v.stored w = v.stored { w with store := (DocumentStore.newId w.store).2 } := rfl
    rw [ran, kept]
    cases passed : v.admits ⟨id, vector, payload⟩ with
    | error cause =>
      rw [passed] at left
      exact ⟨rfl, left⟩
    | ok _ =>
      rw [passed] at left
      exact ⟨rfl, left⟩

theorem run_delete (tends : v.Tends embedder s w) (id : String) :
    (Task.run (v.delete id) w).1 =
        (if id ∈ (v.stored w).filterMap (·.id?) then .ok () else .error (.notFound (.memory id))) ∧
      v.stored (Task.run (v.delete id) w).2 = (v.stored w).filter (!Document.among [id] ·) := by
  obtain ⟨replies, left⟩ :=
    (tends.store.arrive (.deleteOne v.collection (Document.withId id))).deleteOne id
  obtain ⟨w', called, after⟩ : ∃ w', Task.run (Task.call (.deleteOne v.collection
      (Document.withId id))) w = (.ok (if id ∈ (s.getD .empty).ids then 1 else 0), w') ∧
        v.stored w' = (v.stored w).filter (!Document.among [id] ·) := by
    refine ⟨_, Prod.ext ?_ rfl, ?_⟩
    · rw [Task.run_call, Database.perform_of_online tends.store.online]
      exact replies
    · rw [Task.run_call, Database.perform_of_online tends.store.online, tends.stored]
      refine left.documents.trans ?_
      cases s with
      | none => rfl
      | some l => exact (l.filter_documents fun e => congrArg not (e.among_document id)).symm
  rw [VectorStore.delete, Task.run_bind, called, tends.ids]
  by_cases known : id ∈ (s.getD .empty).ids
  · simp only [known, if_true]
    exact ⟨rfl, after⟩
  · simp only [known, if_false]
    exact ⟨rfl, after⟩

section Batch

variable {α β : Type}

/-- A batch whose items are carried out one after another in this order, each with its index. -/
def inOrder {σ : Type} [DocumentStore σ] (s : Service Program) (task : β → Task α)
    (items : List (β × Nat)) (w : World σ) : Result (BatchResponse α) × World σ :=
  match s.coordinator.checkSize items.length with
  | .error cause => (.error cause, w)
  | .ok () =>
      let (results, w) := Pool.runInTurn (items.map fun x => ExceptT.run (task x.1)) w
      (.ok (.ofResults (Coordinator.gather items.length Coordinator.timedOut
        (List.zipWith (fun x r => ⟨x.2, .ofResult r⟩) items results))), w)

theorem run_mapM {σ : Type} [DocumentStore σ] (tasks : List (Task α)) (w : World σ) :
    Program.run (tasks.mapM fun t => ExceptT.run t) w =
      Pool.runInTurn (tasks.map fun t => ExceptT.run t) w := by
  induction tasks generalizing w with
  | nil => rfl
  | cons t rest ih =>
    rw [List.mapM_cons]
    change Program.run (Program.bind _ fun r => Program.bind _ fun rs => .done (r :: rs)) w = _
    rw [Program.run_bind, Program.run_bind, ih]
    rfl

theorem length_runInTurn {σ : Type} [DocumentStore σ] (ps : List (Program α)) (w : World σ) :
    (Pool.runInTurn ps w).1.length = ps.length := by
  induction ps generalizing w with
  | nil => rfl
  | cons p rest ih => exact congrArg Nat.succ (ih _)

/-- In its own order the batch is the one the service carries out. -/
theorem run_inTurn {σ : Type} [DocumentStore σ] (s : Service Program) (task : β → Task α)
    (batch : List β) (w : World σ) :
    Task.run (s.inTurn (batch.map task)) w = s.inOrder task batch.zipIdx w := by
  have items : batch.zipIdx.map (fun x => ExceptT.run (task x.1)) =
      (batch.map task).map fun t => ExceptT.run t := by
    calc
      _ = ((batch.zipIdx.map Prod.fst).map task).map fun t => ExceptT.run t := by
        rw [List.map_map, List.map_map]
        rfl
      _ = _ := by rw [List.zipIdx_map_fst]
  unfold inTurn inOrder
  rw [List.length_map, List.length_zipIdx, items]
  cases s.coordinator.checkSize batch.length with
  | error cause => rfl
  | ok _ =>
    have size := length_runInTurn ((batch.map task).map fun t => ExceptT.run t) w
    have lifted : Task.run (ExceptT.lift ((batch.map task).mapM fun t => ExceptT.run t)) w =
        (.ok (Pool.runInTurn ((batch.map task).map fun t => ExceptT.run t) w).1,
          (Pool.runInTurn ((batch.map task).map fun t => ExceptT.run t) w).2) := by
      rw [Task.run_lift, run_mapM]
    have first : Task.run (ExceptT.mk (pure (Except.ok ()))) w = (.ok (), w) := rfl
    rw [Task.run_bind, first]
    simp only
    rw [Task.run_bind, lifted]
    simp only [Task.run_pure, Coordinator.respond]
    generalize (Pool.runInTurn ((batch.map task).map fun t => ExceptT.run t) w).1 = results at size
    have same : results.length = batch.length := by simpa using size
    have completed : results.zipIdx.map (fun r => (⟨r.2, .ofResult r.1⟩ : Completion α)) =
        List.zipWith (fun x r => ⟨x.2, .ofResult r⟩) batch.zipIdx results := by
      refine List.ext_getElem (by simp [same]) fun i _ _ => ?_
      simp
    rw [completed, same]

theorem inOrder_tells {s : Service Program} {task : β → Task α} {batch : List β}
    {items : List (β × Nat)} (fits : batch.length ≤ s.coordinator.maxSize)
    (permuted : items.Perm batch.zipIdx) {w : World Database} (outcome : Nat → β → Result α)
    (answered : (Pool.runInTurn (items.map fun x => ExceptT.run (task x.1)) w).1 =
      items.map fun x => outcome x.2 x.1) :
    ∃ response, s.inOrder task items w =
        (.ok response, (Pool.runInTurn (items.map fun x => ExceptT.run (task x.1)) w).2) ∧
      response.Tells batch outcome := by
  have size : s.coordinator.checkSize items.length = .ok () := by
    rw [Coordinator.checkSize, if_neg]
    rw [permuted.length_eq, List.length_zipIdx]
    exact Nat.not_lt.mpr fits
  have collected : List.zipWith (fun x r => (⟨x.2, .ofResult r⟩ : Completion α)) items
      (items.map fun x => outcome x.2 x.1) =
        items.map fun x => ⟨x.2, .ofResult (outcome x.2 x.1)⟩ := by
    rw [List.zipWith_map_right, List.zipWith_self]
  refine ⟨_, ?_, Coordinator.gather_of_perm permuted outcome⟩
  unfold inOrder
  rw [size]
  simp only [answered, collected]

end Batch

theorem runInTurn_adds (tends : v.Tends embedder s w) (now : Int)
    {items : List (AddRequest × Nat)} (distinct : (items.map Prod.snd).Nodup) :
    ∃ ids : Nat → String, (∀ i, ∃ n, w.store.issued < n ∧ ids i = identifier n) ∧
      (Pool.runInTurn (items.map fun x => ExceptT.run
          (add (.direct v embedder lifetime coordinator) now x.1)) w).1 =
        items.map (fun x => added v embedder lifetime coordinator now (ids x.2) x.1) ∧
      v.stored (Pool.runInTurn (items.map fun x => ExceptT.run
          (add (.direct v embedder lifetime coordinator) now x.1)) w).2 =
        v.stored w ++ items.filterMap fun x =>
          (record v embedder lifetime coordinator now (ids x.2) x.1).toOption.map
            Record.toDocument := by
  induction items generalizing w s with
  | nil => exact ⟨fun _ => identifier (w.store.issued + 1), fun _ => ⟨_, Nat.lt_succ_self _, rfl⟩,
      rfl, (List.append_nil _).symm⟩
  | cons x rest ih =>
    rw [List.map_cons, List.nodup_cons] at distinct
    obtain ⟨answered, left⟩ := run_add lifetime coordinator tends now x.1
    obtain ⟨⟨s', tends'⟩, issued, -⟩ :=
      tends.after ((v.minded_tending embedder).parts.add lifetime coordinator now x.1)
    obtain ⟨ids, generated, answers, stored⟩ := ih tends' distinct.2
    -- the other items have other indices
    have others : ∀ y ∈ rest, Function.update ids x.2 (identifier (w.store.issued + 1)) y.2 =
        ids y.2 := by
      intro y member
      refine Function.update_of_ne (fun same => distinct.1 ?_) _ _
      rw [← same]
      exact List.mem_map_of_mem member
    refine ⟨Function.update ids x.2 (identifier (w.store.issued + 1)), fun i => ?_, ?_, ?_⟩
    · by_cases own : i = x.2
      · subst own
        exact ⟨_, Nat.lt_succ_self _, Function.update_self _ _ _⟩
      · obtain ⟨n, later, same⟩ := generated i
        exact ⟨n, issued.trans_lt later, (Function.update_of_ne own _ _).trans same⟩
    · rw [List.map_cons, List.map_cons, Function.update_self]
      refine congrArg₂ List.cons answered (answers.trans (List.map_congr_left fun y member => ?_))
      rw [others y member]
    · have tail : (rest.filterMap fun y => (record v embedder lifetime coordinator now
            (Function.update ids x.2 (identifier (w.store.issued + 1)) y.2) y.1).toOption.map
              Record.toDocument) = rest.filterMap fun y =>
          (record v embedder lifetime coordinator now (ids y.2) y.1).toOption.map
            Record.toDocument :=
        List.filterMap_congr fun y member => by rw [others y member]
      rw [List.map_cons, List.filterMap_cons, Function.update_self, tail]
      refine stored.trans ?_
      rw [left, List.append_assoc]
      cases record v embedder lifetime coordinator now (identifier (w.store.issued + 1)) x.1 <;> rfl

theorem run_deletion (tends : v.Tends embedder s w) (id : String) :
    (Task.run (deletion (.direct v embedder lifetime coordinator) id) w).1 =
        (if id ∈ (v.stored w).filterMap (·.id?) then .ok id else .error (.notFound (.memory id))) ∧
      v.stored (Task.run (deletion (.direct v embedder lifetime coordinator) id) w).2 =
        (v.stored w).filter (!Document.among [id] ·) := by
  obtain ⟨answered, left⟩ := run_delete tends id
  have shape : deletion (.direct v embedder lifetime coordinator) id = (do
      v.delete id
      return id) := rfl
  rw [shape, Task.run_bind]
  cases ran : Task.run (v.delete id) w with
  | mk answer w' =>
    rw [ran] at answered left
    by_cases known : id ∈ (v.stored w).filterMap (·.id?)
    · rw [if_pos known] at answered ⊢
      obtain rfl : answer = .ok () := answered
      exact ⟨rfl, left⟩
    · rw [if_neg known] at answered ⊢
      obtain rfl : answer = .error (.notFound (.memory id)) := answered
      exact ⟨rfl, left⟩

theorem mem_ids_kept {ds : List Document} {id other : String} :
    other ∈ (ds.filter (!Document.among [id] ·)).filterMap (·.id?) ↔
      other ∈ ds.filterMap (·.id?) ∧ other ≠ id := by
  simp only [List.mem_filterMap, List.mem_filter, Document.among]
  constructor
  · rintro ⟨d, ⟨member, kept⟩, named⟩
    exact ⟨⟨d, member, named⟩, by simpa [named] using kept⟩
  · rintro ⟨⟨d, member, named⟩, differs⟩
    exact ⟨d, ⟨member, by simpa [named] using differs⟩, named⟩

theorem runInTurn_deletes (tends : v.Tends embedder s w) {items : List (String × Nat)}
    (distinct : (items.map Prod.snd).Nodup) :
    ∃ winner : String → Nat,
      (∀ id ∈ items.map Prod.fst, id ∈ (v.stored w).filterMap (·.id?) →
        (id, winner id) ∈ items) ∧
      (Pool.runInTurn (items.map fun x => ExceptT.run
          (deletion (.direct v embedder lifetime coordinator) x.1)) w).1 =
        items.map (fun x => if x.1 ∈ (v.stored w).filterMap (·.id?) ∧ winner x.1 = x.2
          then .ok x.1 else .error (.notFound (.memory x.1))) ∧
      v.stored (Pool.runInTurn (items.map fun x => ExceptT.run
          (deletion (.direct v embedder lifetime coordinator) x.1)) w).2 =
        (v.stored w).filter (!Document.among (items.map Prod.fst) ·) := by
  induction items generalizing w s with
  | nil =>
    refine ⟨fun _ => 0, nofun, rfl, (List.filter_eq_self.mpr fun d _ => ?_).symm⟩
    simp [Document.among]
  | cons x rest ih =>
    obtain ⟨id, i⟩ := x
    rw [List.map_cons, List.nodup_cons] at distinct
    obtain ⟨answered, left⟩ := run_deletion lifetime coordinator tends id
    obtain ⟨⟨s', tends'⟩, -⟩ :=
      tends.after ((v.minded_tending embedder).parts.deletion lifetime coordinator id)
    obtain ⟨winner, named, answers, stored⟩ := ih tends' distinct.2
    have kept (other : String) : other ∈ (v.stored (Task.run (deletion
        (.direct v embedder lifetime coordinator) id) w).2).filterMap (·.id?) ↔
          other ∈ (v.stored w).filterMap (·.id?) ∧ other ≠ id := by
      rw [left, mem_ids_kept]
    -- behind this item its id is not there any more, so nothing is won with it
    have agree : ∀ y ∈ rest,
        (y.1 ∈ (v.stored (Task.run (deletion (.direct v embedder lifetime coordinator) id)
            w).2).filterMap (·.id?) ∧ winner y.1 = y.2) ↔
          y.1 ∈ (v.stored w).filterMap (·.id?) ∧ Function.update winner id i y.1 = y.2 := by
      intro y member
      rw [kept]
      by_cases own : y.1 = id
      · have listed : y.2 ∈ rest.map Prod.snd := List.mem_map_of_mem member
        have later : i ≠ y.2 := fun same => distinct.1 (same.symm ▸ listed)
        simp [own, later]
      · simp [own]
    refine ⟨Function.update winner id i, fun other member known => ?_, ?_, ?_⟩
    · by_cases own : other = id
      · subst own
        rw [Function.update_self]
        exact List.mem_cons_self
      · rw [Function.update_of_ne own]
        have later := (List.mem_cons.mp member).resolve_left own
        exact List.mem_cons_of_mem _ (named other later ((kept other).mpr ⟨known, own⟩))
    · rw [List.map_cons, List.map_cons]
      refine congrArg₂ List.cons ?_ (answers.trans (List.map_congr_left fun y member => ?_))
      · exact answered.trans (if_congr (by simp) rfl rfl)
      · exact if_congr (agree y member) rfl rfl
    · have both (d : Document) : (!Document.among (((id, i) :: rest).map Prod.fst) d) =
          (!Document.among [id] d && !Document.among (rest.map Prod.fst) d) := by
        rw [List.map_cons, Document.among_cons, Bool.not_or]
      refine stored.trans ?_
      rw [left, List.filter_filter]
      exact List.filter_congr fun d _ => ((both d).trans (Bool.and_comm _ _)).symm

theorem toOption_record {id other : String} (named : id.isEmpty = false)
    (renamed : other.isEmpty = false) (now : Int) (r : AddRequest) :
    (record v embedder lifetime coordinator now other r).toOption =
      (record v embedder lifetime coordinator now id r).toOption.map fun m =>
        { m with id := other } := by
  unfold record
  cases draft v embedder lifetime coordinator now r with
  | error cause => rfl
  | ok made =>
    obtain ⟨payload, vector⟩ := made
    simp only [Fallible.ok_bind]
    cases passed : v.admits ⟨id, vector, payload⟩ with
    | ok _ =>
      rw [v.admits_of_named renamed passed]
      rfl
    | error cause =>
      cases passed' : v.admits ⟨other, vector, payload⟩ with
      | ok _ =>
        rw [v.admits_of_named named passed'] at passed
        cases passed
      | error cause' => rfl

/-- What becomes of a batch of additions: each request is answered as it would be alone, under an id
of its own, and a document is stored for it if the answer is no failure. -/
structure AddedEach (v : VectorStore) (embedder : Embedder) (lifetime : Int)
    (coordinator : Coordinator) (now : Int) (batch : List AddRequest) (ids : Nat → String)
    (response : BatchResponse AddOutcome) (w w' : World Database) : Prop where
  issued : ∀ i, ∃ n, w.store.issued ≤ n ∧ ids i = identifier (n + 1) ∧
    ∀ r, (Task.run (add (.direct v embedder lifetime coordinator) now r) (w.numbered n)).1 =
      added v embedder lifetime coordinator now (ids i) r
  answers : response.Tells batch fun i r => added v embedder lifetime coordinator now (ids i) r
  anonymous : ∀ i j r, (record v embedder lifetime coordinator now (ids j) r).toOption =
    (record v embedder lifetime coordinator now (ids i) r).toOption.map fun m =>
      { m with id := ids j }
  documents : ∃ new, v.stored w' = v.stored w ++ new ∧
    new.Perm (batch.zipIdx.filterMap fun x =>
      (record v embedder lifetime coordinator now (ids x.2) x.1).toOption.map Record.toDocument)

/-- What becomes of a batch of deletions: of the items that name one memory that is stored, one wins
and the others find nothing. -/
structure DeletedOnce (v : VectorStore) (batch : List String) (winner : String → Nat)
    (response : BatchResponse String) (w w' : World Database) : Prop where
  winners : ∀ id ∈ batch, id ∈ (v.stored w).filterMap (·.id?) → batch[winner id]? = some id
  answers : response.Tells batch fun i id =>
    if id ∈ (v.stored w).filterMap (·.id?) ∧ winner id = i then .ok id
    else .error (.notFound (.memory id))
  once : ∀ id ∈ batch, id ∈ (v.stored w).filterMap (·.id?) →
    ∃! i : Nat, response.results[i]? = some ⟨i, .ok, some id, none⟩
  others : ∀ (i : Nat) (id : String), batch[i]? = some id →
    response.results[i]? = some ⟨i, .ok, some id, none⟩ ∧ id ∈ (v.stored w).filterMap (·.id?) ∨
      response.results[i]? =
        some ⟨i, .error, none, some ("not found: memory '" ++ id ++ "'")⟩
  documents : v.stored w' = (v.stored w).filter (!Document.among batch ·)

theorem added_each (tends : v.Tends embedder s w) (now : Int) {batch : List AddRequest}
    {items : List (AddRequest × Nat)} (fits : batch.length ≤ coordinator.maxSize)
    (permuted : items.Perm batch.zipIdx) :
    let service := Service.direct v embedder lifetime coordinator
    ∃ ids response w', service.inOrder (service.add now) items w = (.ok response, w') ∧
      AddedEach v embedder lifetime coordinator now batch ids response w w' := by
  intro service
  obtain ⟨ids, issued, answers, stored⟩ :=
    runInTurn_adds lifetime coordinator tends now (Coordinator.nodup_indices permuted)
  obtain ⟨response, ran, tells⟩ := inOrder_tells (s := service) fits permuted
    (fun i r => added v embedder lifetime coordinator now (ids i) r) answers
  refine ⟨ids, response, _, ran, fun i => ?_, tells, fun i j r => ?_, _, stored,
    permuted.filterMap _⟩
  · obtain ⟨n, new, named⟩ := issued i
    obtain ⟨m, rfl⟩ : ∃ m, n = m + 1 := ⟨n - 1, by omega⟩
    have later := Nat.le_of_lt_succ new
    refine ⟨m, later, named, fun r => ?_⟩
    rw [named]
    exact (run_add lifetime coordinator (tends.renumbered later) now r).1
  · obtain ⟨⟨m, -, named⟩, n, -, renamed⟩ := And.intro (issued i) (issued j)
    rw [named, renamed]
    exact toOption_record lifetime coordinator (isEmpty_identifier m) (isEmpty_identifier n) now r

theorem deleted_once (tends : v.Tends embedder s w) {batch : List String}
    {items : List (String × Nat)} (fits : batch.length ≤ coordinator.maxSize)
    (permuted : items.Perm batch.zipIdx) :
    let service := Service.direct v embedder lifetime coordinator
    ∃ winner response w', service.inOrder service.deletion items w = (.ok response, w') ∧
      DeletedOnce v batch winner response w w' := by
  intro service
  obtain ⟨winner, named, answers, stored⟩ :=
    runInTurn_deletes lifetime coordinator tends (Coordinator.nodup_indices permuted)
  obtain ⟨response, ran, tells⟩ := inOrder_tells (s := service) fits permuted (fun i id =>
    if id ∈ (v.stored w).filterMap (·.id?) ∧ winner id = i then .ok id
    else .error (.notFound (.memory id))) answers
  have listed : (items.map Prod.fst).Perm batch := by
    rw [← List.zipIdx_map_fst 0 batch]
    exact permuted.map Prod.fst
  have winners : ∀ id ∈ batch, id ∈ (v.stored w).filterMap (·.id?) →
      batch[winner id]? = some id := fun id member known => by
    have listed := named id (listed.mem_iff.mpr member) known
    exact List.mem_zipIdx_iff_getElem?.mp (permuted.mem_iff.mp listed)
  refine ⟨winner, response, _, ran, winners, tells, fun id member known => ?_, fun i id item => ?_,
    ?_⟩
  · have won := tells.value _ id id (winners id member known) (if_pos ⟨known, rfl⟩)
    refine ⟨winner id, won, fun i told => ?_⟩
    obtain ⟨other, item, came⟩ := tells.of_value told
    split at came
    · next wins =>
      obtain rfl := Except.ok.inj came
      exact wins.2.symm
    · cases came
  · by_cases wins : id ∈ (v.stored w).filterMap (·.id?) ∧ winner id = i
    · exact .inl ⟨tells.value i id id item (if_pos wins), wins.1⟩
    · exact .inr (tells.failure i id _ item (if_neg wins))
  · refine stored.trans (List.filter_congr fun d _ => congrArg not ?_)
    unfold Document.among
    cases d.id? with
    | none => rfl
    | some id => exact listed.contains_eq

/-- Whatever a service has been asked before: the items of a batch do not disturb each other if they
are carried out one after another, in any order, of which the service's own is one. -/
theorem batches_in_any_order (v : VectorStore) (embedder : Embedder) (lifetime : Int)
    (coordinator : Coordinator) (errands : List Errand) (schedule : List Nat) (now : Int) :
    let s := Service.direct v embedder lifetime coordinator
    let w := s.during errands schedule
    (∀ (batch : List AddRequest), batch.length ≤ coordinator.maxSize →
      Task.run (s.batchAdd now batch) w = s.inOrder (s.add now) batch.zipIdx w ∧
      (∃ ids response w', Task.run (s.batchAdd now batch) w = (.ok response, w') ∧
        AddedEach v embedder lifetime coordinator now batch ids response w w') ∧
      ∀ items, items.Perm batch.zipIdx → ∃ ids response w',
        s.inOrder (s.add now) items w = (.ok response, w') ∧
          AddedEach v embedder lifetime coordinator now batch ids response w w') ∧
    (∀ (batch : List String), batch.length ≤ coordinator.maxSize →
      Task.run (s.batchDelete batch) w = s.inOrder s.deletion batch.zipIdx w ∧
      (∃ winner response w', Task.run (s.batchDelete batch) w = (.ok response, w') ∧
        DeletedOnce v batch winner response w w') ∧
      ∀ items, items.Perm batch.zipIdx → ∃ winner response w',
        s.inOrder s.deletion items w = (.ok response, w') ∧
          DeletedOnce v batch winner response w w') := by
  intro s w
  obtain ⟨l, tends⟩ := v.tends_during embedder lifetime coordinator errands schedule
  constructor
  · intro batch fits
    have own : Task.run (s.batchAdd now batch) w = s.inOrder (s.add now) batch.zipIdx w :=
      s.run_inTurn (s.add now) batch w
    exact ⟨own, own ▸ added_each lifetime coordinator tends now fits (.refl _),
      fun items => added_each lifetime coordinator tends now fits⟩
  · intro batch fits
    have own : Task.run (s.batchDelete batch) w = s.inOrder s.deletion batch.zipIdx w :=
      s.run_inTurn s.deletion batch w
    exact ⟨own, own ▸ deleted_once lifetime coordinator tends fits (.refl _),
      fun items => deleted_once lifetime coordinator tends fits⟩

/-- One memory is stored; then two are added, of which one is blank, and the stored one is deleted
twice beside one that is not there: by the service itself, and with the last item first. -/
theorem batches_in_reverse :
    let v : VectorStore := ⟨⟨"memories", 1, .diskann, 0, 50⟩⟩
    let s := Service.direct v (.ofLetters 1) 0 (.ofSize 50)
    let w := s.during [.add 0 ⟨⟨some "u", none, none⟩, .text "a", .fact, none, none⟩]
      [0, 0, 0, 0, 0, 0]
    let additions : List AddRequest := [⟨⟨some "u", none, none⟩, .text "a", .fact, none, none⟩,
      ⟨⟨some "u", none, none⟩, .text " ", .fact, none, none⟩]
    let stored := "01900000-0000-7000-8000-000000000001"
    (∃ ids response w', Task.run (s.batchAdd 7 additions) w = (.ok response, w') ∧
      AddedEach v (.ofLetters 1) 0 (.ofSize 50) 7 additions ids response w w') ∧
    (∃ ids response w', s.inOrder (s.add 7) additions.zipIdx.reverse w = (.ok response, w') ∧
      AddedEach v (.ofLetters 1) 0 (.ofSize 50) 7 additions ids response w w') ∧
    (∃ winner response w', Task.run (s.batchDelete [stored, "x", stored]) w = (.ok response, w') ∧
      DeletedOnce v [stored, "x", stored] winner response w w') ∧
    ∃ winner response w', s.inOrder s.deletion [stored, "x", stored].zipIdx.reverse w =
        (.ok response, w') ∧
      DeletedOnce v [stored, "x", stored] winner response w w' := by
  intro v s w additions stored
  obtain ⟨adds, deletes⟩ := batches_in_any_order v (.ofLetters 1) 0 (.ofSize 50)
    [.add 0 ⟨⟨some "u", none, none⟩, .text "a", .fact, none, none⟩] [0, 0, 0, 0, 0, 0] 7
  obtain ⟨-, added, reversed⟩ := adds additions (by decide)
  obtain ⟨-, deleted, reversed'⟩ := deletes [stored, "x", stored] (by decide)
  exact ⟨added, reversed _ (List.reverse_perm _), deleted, reversed' _ (List.reverse_perm _)⟩

end Service

end MemoryBank
