import MemoryBank.Proofs.Store.Adapter
import MemoryBank.Proofs.Store.Catalogues
import MemoryBank.Sweep

set_option autoImplicit false

/-!
The operations of an adapter, as data: what its callers may ask of it, in any order and at any time.
What holds of the calls an operation makes, and of seeing to an index and of dropping a collection,
holds of the whole operation if it passes from the parts of a task to the task.
-/

namespace MemoryBank

inductive Operation
  | ensureIndex
  | createCollection (name : String) (dimensions : Nat)
  | insert (ids : List String) (vectors : List Embedding) (payloads : List Payload)
  | search (vector : Embedding) (count : Nat) (filters : Filters)
  | get (id : String)
  | list (filters : Filters) (limit : Nat)
  | update (id : String) (change : Change)
  | delete (id : String)
  | deleteCollection (name : String)
  | collectionInfo (name : String)
  | reset
  | collectionNames
  | sweep (now : Int)

namespace Operation

/-- What an adapter does for an operation; the answer is left out. -/
def task (v : VectorStore) : Operation → Task Unit
  | ensureIndex => do let _ ← v.ensureIndex
  | createCollection name dimensions => v.createCollection name dimensions
  | insert ids vectors payloads => v.insert ids vectors payloads
  | search vector count filters => do let _ ← v.search vector count filters
  | get id => do let _ ← v.get id
  | list filters limit => do let _ ← v.list filters limit
  | update id change => v.update id change
  | delete id => v.delete id
  | deleteCollection name => v.deleteCollection name
  | collectionInfo name => do let _ ← v.collectionInfo name
  | reset => v.reset
  | collectionNames => do let _ ← v.collectionNames
  | sweep now => do let _ ← Sweep.run v.collection now

def program (v : VectorStore) (o : Operation) : Program (Result Unit) := ExceptT.run (o.task v)

/-- The collection an operation drops. -/
def Drops (v : VectorStore) (name : String) : Operation → Prop
  | deleteCollection dropped => dropped = name
  | reset => v.collection = name
  | _ => False

/-- The indexes an operation sees to. -/
def Ensures (v : VectorStore) (name : String) (dimensions : Nat) : Operation → Prop
  | ensureIndex | insert _ _ _ | search _ _ _ | reset =>
      name = v.collection ∧ dimensions = v.settings.dimensions
  | createCollection target wanted => name = target ∧ dimensions = wanted ∧ wanted ≠ 0
  | _ => False

/-- The calls an operation makes, but for those that look at an index, see to it or drop a
collection. -/
def Makes (v : VectorStore) (c : Call) : Operation → Prop
  | ensureIndex | deleteCollection _ => False
  | createCollection name _ => c = .createCollection name
  | insert ids vectors payloads =>
      ∃ ds, v.documents ids vectors payloads = .ok ds ∧ c = .insert v.collection ds
  | search _ _ _ => ∃ pipeline, c = .aggregate v.collection pipeline
  | get id => c = .findOne v.collection (Document.withId id)
  | list _ limit => ∃ filter, c = .find v.collection filter (some limit)
  | update id _ =>
      ∃ fields, c = .update v.collection (Document.withId id) [("$set", .object fields)]
  | delete id => c = .deleteOne v.collection (Document.withId id)
  | collectionInfo name => c = .command (Document.command statisticsCommand name)
  | reset => c = .createCollection v.collection
  | collectionNames => c = .collectionNames
  | sweep now => c = .find v.collection (Sweep.expired now) none ∨
      c = .deleteMany v.collection (Sweep.expired now)

end Operation

/-- A property that passes from the parts of a task to the task. -/
structure Task.Closed (P : (α : Type) → Task α → Prop) : Prop where
  result {α : Type} (r : Result α) : P α (Task.ofResult r)
  bind {α β : Type} {t : Task α} {f : α → Task β} : P α t → (∀ a, P β (f a)) → P β (t >>= f)

section Parts

variable {P : (α : Type) → Task α → Prop} (closed : Task.Closed P)
include closed

theorem Upkeep.ensure_of_parts {name : String} {d : IndexDescriptor}
    (looks : P _ (Task.verdict name)) (inspects : P _ (inspect name))
    (creates : P _ (Task.call (.command (d.createCommand name))))
    (remembers : ∀ status, P _ (Task.remember name status)) : P _ (ensure name d) := by
  refine closed.bind looks fun known => ?_
  cases known with
  | some status => exact closed.result (.ok status)
  | none =>
    refine closed.bind inspects fun observed => closed.bind ?_ fun status => remembers status
    cases observed with
    | some o => exact closed.result (.ok _)
    | none => exact closed.bind creates fun _ => closed.result (.ok _)

theorem VectorStore.createCollection_of_parts (v : VectorStore) (name : String) (dimensions : Nat)
    (inspects : P _ (Upkeep.inspect name)) (creates : P _ (Task.call (.createCollection name)))
    (ensures : dimensions ≠ 0 → P _ (Upkeep.ensure name (v.descriptor name dimensions))) :
    P _ (v.createCollection name dimensions) := by
  have ready (some : dimensions ≠ 0) : P _ (do
      Task.call (.createCollection name)
      let _ ← Upkeep.ensure name (v.descriptor name dimensions)) :=
    closed.bind creates fun _ => closed.bind (ensures some) fun _ => closed.result (.ok ())
  unfold createCollection
  split
  · exact closed.result (.error _)
  · next some =>
    refine closed.bind inspects fun observed => ?_
    split
    · split
      · exact closed.result (.error _)
      · exact ready some
    · exact ready some

theorem VectorStore.insert_of_parts (v : VectorStore) (ids : List String)
    (vectors : List Embedding) (payloads : List Payload) (ensures : P _ v.ensureIndex)
    (inserts : ∀ ds, v.documents ids vectors payloads = .ok ds →
      P _ (Task.call (.insert v.collection ds))) : P _ (v.insert ids vectors payloads) := by
  unfold insert
  cases made : v.documents ids vectors payloads with
  | error cause => exact closed.result (.error cause)
  | ok ds =>
    change P _ (if ds.isEmpty then pure () else _)
    split
    · exact closed.result (.ok ())
    · exact closed.bind ensures fun _ =>
        closed.bind (inserts ds made) fun _ => closed.result (.ok ())

theorem VectorStore.search_of_parts (v : VectorStore) (vector : Embedding) (count : Nat)
    (filters : Filters) (ensures : P _ v.ensureIndex)
    (searches : ∀ pipeline, P _ (Task.call (.aggregate v.collection pipeline))) :
    P _ (v.search vector count filters) := by
  unfold search
  split
  · exact closed.result (.error _)
  · exact closed.bind (closed.result _) fun _ => closed.bind (closed.result _) fun filter =>
      closed.bind ensures fun status => closed.bind (searches _) fun rows => closed.result _

theorem VectorStore.update_of_parts (v : VectorStore) (id : String) (change : Change)
    (updates : ∀ fields, v.changedFields change = .ok fields → P _ (Task.call
      (.update v.collection (Document.withId id) [("$set", .object fields)]))) :
    P _ (v.update id change) := by
  unfold update
  split
  · exact closed.result (.error _)
  · cases made : v.changedFields change with
    | error cause => exact closed.result (.error cause)
    | ok fields =>
      change P _ (Task.call
        (.update v.collection (Document.withId id) [("$set", .object fields)]) >>= fun count =>
          if count.matched = 0 then throw (.notFound (.memory id)) else pure ())
      refine closed.bind (updates fields made) fun count => ?_
      split
      · exact closed.result (.error _)
      · exact closed.result (.ok ())

/-- What holds of the parts of an operation holds of the operation, be it at which of them it
ends. -/
theorem Operation.task_of_parts (v : VectorStore) (o : Operation)
    (inspects : ∀ name, P _ (Upkeep.inspect name))
    (ensures : ∀ name dimensions, o.Ensures v name dimensions →
      P _ (Upkeep.ensure name (v.descriptor name dimensions)))
    (drops : ∀ name, o.Drops v name → P _ (v.deleteCollection name))
    (calls : ∀ c, o.Makes v c → P _ (Task.call c)) : P _ (o.task v) := by
  have done {α : Type} {t : Task α} (h : P _ t) : P _ (do let _ ← t) :=
    closed.bind h fun _ => closed.result (.ok ())
  cases o with
  | ensureIndex => exact done (ensures _ _ ⟨rfl, rfl⟩)
  | createCollection name dimensions =>
    exact v.createCollection_of_parts closed name dimensions (inspects name) (calls _ rfl)
      fun some => ensures _ _ ⟨rfl, rfl, some⟩
  | insert ids vectors payloads =>
    exact v.insert_of_parts closed ids vectors payloads (ensures _ _ ⟨rfl, rfl⟩) fun ds made =>
      calls _ ⟨ds, made, rfl⟩
  | search vector count filters =>
    exact done (v.search_of_parts closed vector count filters (ensures _ _ ⟨rfl, rfl⟩)
      fun pipeline => calls _ ⟨pipeline, rfl⟩)
  | get id =>
    refine done (closed.bind (calls _ rfl) fun found => ?_)
    cases found <;> exact closed.result _
  | list filters limit =>
    refine done (closed.bind (closed.result _) fun filter => ?_)
    split
    · exact closed.result (.ok _)
    · exact closed.bind (calls _ ⟨filter, rfl⟩) fun _ => closed.result _
  | update id change =>
    exact v.update_of_parts closed id change fun fields _ => calls _ ⟨fields, rfl⟩
  | delete id =>
    refine closed.bind (calls _ rfl) fun deleted => ?_
    split <;> exact closed.result _
  | deleteCollection name => exact drops name rfl
  | collectionInfo name => exact done (closed.bind (calls _ rfl) fun _ => closed.result (.ok _))
  | reset =>
    exact closed.bind (drops v.collection rfl) fun _ =>
      v.createCollection_of_parts closed _ _ (inspects _) (calls _ rfl) fun _ =>
        ensures _ _ ⟨rfl, rfl⟩
  | collectionNames => exact done (calls _ rfl)
  | sweep now =>
    exact done (closed.bind (calls _ (.inl rfl)) fun _ =>
      closed.bind (calls _ (.inr rfl)) fun _ => closed.result (.ok _))

end Parts

namespace Task

variable {α β : Type}

def Preserves (I : World Database → Prop) (t : Task α) : Prop := ∀ w, I w → I (run t w).2

theorem Preserves.bind {I : World Database → Prop} {t : Task α} {f : α → Task β}
    (first : t.Preserves I) (behind : ∀ a, (f a).Preserves I) : (t >>= f).Preserves I :=
  run_bind_of_trans (R := fun w w' => I w → I w') (fun before after => after ∘ before) first behind

theorem closed_preserves (I : World Database → Prop) : Task.Closed fun _ t => t.Preserves I :=
  ⟨fun _ _ holds => holds, Preserves.bind⟩

theorem preserves_remember {I : World Database → Prop} {name : String} {status : IndexStatus}
    (remembers : ∀ w, I w → w.verdicts.get? name = none →
      I { w with verdicts := w.verdicts.insert name status }) :
    (remember name status).Preserves I := by
  intro w holds
  rw [run_remember]
  cases absent : w.verdicts.get? name with
  | some standing => exact holds
  | none => exact remembers w holds absent

end Task

theorem Upkeep.preserves_ensure {I : World Database → Prop} {name : String} {d : IndexDescriptor}
    (inspects : (inspect name).Preserves I)
    (creates : (Task.call (.command (d.createCommand name))).Preserves I)
    (remembers : ∀ status, (Task.remember name status).Preserves I) :
    (ensure name d).Preserves I :=
  ensure_of_parts (Task.closed_preserves I) (fun _ holds => holds) inspects creates remembers

/-- All calls an operation can come to make. -/
def Operation.Calls (v : VectorStore) (c : Call) (o : Operation) : Prop :=
  o.Makes v c ∨ (∃ name, o.Drops v name ∧ c = .dropCollection name) ∨
    (∃ name, c = .command (Document.command listIndexesCommand name)) ∨
      ∃ name dimensions, c = .command ((v.descriptor name dimensions).createCommand name)

/-- What every call, every verdict remembered and every verdict forgotten preserves, the operation
preserves. -/
theorem Operation.task_preserves {I : World Database → Prop} (v : VectorStore) (o : Operation)
    (calls : ∀ c, o.Calls v c → ∀ w, I w →
      I { w with store := (DocumentStore.perform c w.store).2 })
    (remembers : ∀ name status w, I w → w.verdicts.get? name = none →
      I { w with verdicts := w.verdicts.insert name status })
    (forgets : ∀ name, o.Drops v name → ∀ w, I w →
      I { w with verdicts := w.verdicts.erase name }) :
    (o.task v).Preserves I := by
  have inspects (name : String) : (Upkeep.inspect name).Preserves I := by
    intro w holds
    rw [Upkeep.run_inspect]
    exact calls _ (.inr (.inr (.inl ⟨name, rfl⟩))) w holds
  have ensures (name : String) (dimensions : Nat) :
      (Upkeep.ensure name (v.descriptor name dimensions)).Preserves I :=
    Upkeep.preserves_ensure (inspects name)
      (fun w holds => calls _ (.inr (.inr (.inr ⟨name, dimensions, rfl⟩))) w holds)
      fun status => Task.preserves_remember (remembers name status)
  refine o.task_of_parts (Task.closed_preserves I) v inspects (fun _ _ _ => ensures _ _) ?_ ?_
  · intro name drops
    refine Task.Preserves.bind (fun w holds => ?_) fun _ w holds => forgets name drops w holds
    exact calls _ (.inr (.inl ⟨name, drops, rfl⟩)) w holds
  · exact fun c makes w holds => calls c (.inl makes) w holds

namespace Operation

theorem asks_of_calls {v : VectorStore} {o : Operation} {c : Call} (calls : o.Calls v c)
    {spec : Document} (asked : c.Asks spec) : ∃ d : IndexDescriptor, spec = d.spec := by
  obtain ⟨command, name, specs, rfl, requested, member⟩ := asked
  have other {key target : String} (differs : key ≠ createIndexesCommand)
      (same : command = Document.command key target) : False := by
    have missing : Object.get? command createIndexesCommand = none := by
      rw [same]
      exact if_neg differs
    obtain ⟨_, named, -⟩ := Fallible.bind_eq_ok.mp requested
    rw [Database.namedCollection, missing] at named
    cases named
  rcases calls with makes | ⟨_, -, drops⟩ | ⟨_, lists⟩ | ⟨_, _, creates⟩
  · cases o with
    | collectionInfo _ => exact (other (by decide) (Call.command.inj makes)).elim
    | ensureIndex | deleteCollection _ => cases makes
    | insert _ _ _ => obtain ⟨_, -, makes⟩ := makes; cases makes
    | search _ _ _ | list _ _ | update _ _ => obtain ⟨_, makes⟩ := makes; cases makes
    | sweep _ => rcases makes with makes | makes <;> cases makes
    | _ => cases makes
  · cases drops
  · exact (other (by decide) (Call.command.inj lists)).elim
  · obtain rfl := Call.command.inj creates
    obtain ⟨-, rfl⟩ := Database.requestedSpecs_create requested
    exact ⟨_, List.mem_singleton.mp member⟩

end Operation

end MemoryBank
