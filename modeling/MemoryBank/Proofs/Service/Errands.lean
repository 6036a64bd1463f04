import MemoryBank.Engine.Direct
import MemoryBank.Proofs.Program.Interference
import MemoryBank.Service.Basic
import MemoryBank.Sweep

set_option autoImplicit false

/-!
What may be asked of a memory service, as data: in any order, at any time and many things at once.
An errand is carried out by one program, a batch by one for each of its items. All of them abide by
a rule if the few calls that errands make do.
-/

namespace MemoryBank

inductive Errand
  | add (now : Int) (r : AddRequest)
  | batchAdd (now : Int) (rs : List AddRequest)
  | search (now : Int) (r : SearchRequest)
  | batchSearch (now : Int) (rs : List SearchRequest)
  | get (id : String)
  | getAll (now : Int) (scope : Scope) (limit : Nat)
  | update (id content : String)
  | delete (id : String)
  | batchDelete (ids : List String)
  | history (id : String)
  | deleteExpired (collection : String) (now : Int)

namespace Errand

def silent {α : Type} (t : Task α) : Task Unit := do let _ ← t

/-- What is dispatched of a batch: all items, or none if they are too many. -/
def dispatched {α : Type} (c : Coordinator) (items : List (Task α)) : List (Task Unit) :=
  match c.checkSize items.length with
  | .ok () => items.map silent
  | .error _ => []

def tasks (s : Service Program) : Errand → List (Task Unit)
  | add now r => [silent (s.add now r)]
  | batchAdd now rs => dispatched s.coordinator (s.addTasks now rs)
  | search now r => [silent (s.search now r)]
  | batchSearch now rs => dispatched s.coordinator (s.searchTasks now rs)
  | get id => [silent (s.get id)]
  | getAll now scope limit => [silent (s.getAll now scope limit)]
  | update id content => [silent (s.update id content)]
  | delete id => [silent (s.delete id)]
  | batchDelete ids => dispatched s.coordinator (s.deleteTasks ids)
  | history id => [silent (s.history id)]
  | deleteExpired collection now => [silent (Sweep.run collection now)]

end Errand

namespace Service

abbrev direct (v : VectorStore) (embedder : Embedder) (lifetime : Int)
    (coordinator : Coordinator) : Service Program :=
  ⟨Direct.engine v embedder, lifetime, coordinator⟩

def deletion (s : Service Program) (id : String) : Task String := do
  s.delete id
  return id

theorem deleteTasks_eq (s : Service Program) (ids : List String) :
    s.deleteTasks ids = ids.map s.deletion := rfl

def programs (s : Service Program) (errands : List Errand) : List (Program (Result Unit)) :=
  (errands.flatMap (·.tasks s)).map ExceptT.run

/-- The world at some moment of carrying out errands on an empty store, one step of one program and
then one of another. -/
def during (s : Service Program) (errands : List Errand) (schedule : List Nat) : World Database :=
  (Pool.follow schedule (s.programs errands) ⟨.empty, .empty⟩).2

end Service

theorem VectorStore.documents_record (v : VectorStore) (r : Record) :
    v.documents [r.id] [r.vector] [r.payload] =
      (fun _ => [r.toDocument]) <$> r.validate v.settings.dimensions := by
  have lengths : ¬([r.id].length ≠ [r.vector].length ∨ [r.id].length ≠ [r.payload].length) := by
    simp
  unfold documents
  rw [if_neg lengths]
  simp only [List.zip_cons_cons, List.zip_nil_right, List.mapM_cons, List.mapM_nil]
  change ((r.validate v.settings.dimensions >>= fun _ => pure r.toDocument) >>= fun d => (do
    let rest ← pure []
    pure (d :: rest))) = _
  cases r.validate v.settings.dimensions <;> rfl

namespace Errand

/-- What holds of the parts that the tasks of errands are made of. -/
structure Parts (P : (α : Type) → Task α → Prop) (v : VectorStore) (embedder : Embedder) :
    Prop where
  closed : Task.Closed P
  ensures : P _ v.ensureIndex
  reads (c : Call) : (∀ db, (Database.execute c db).2 = db) → P _ (Task.call c)
  inserts {text : String} {scope : Scope} {metadata : Object} {payload : Payload}
    {vector : Embedding} : Direct.payload text scope metadata = .ok payload →
      embedder.embedOne text = .ok vector →
      P (Option AddOutcome) (Task.newId >>= fun id => do
        v.insert [id] [vector] [payload]
        return some ⟨some id, text, .add⟩)
  updates {content : String} {vector : Embedding} {fields : Object} (id : String) :
    embedder.embedOne content = .ok vector →
      v.changedFields ⟨some content, none, some vector⟩ = .ok fields →
      P _ (Task.call (.update v.collection (Document.withId id) [("$set", .object fields)]))
  deletes (id : String) : P _ (Task.call (.deleteOne v.collection (Document.withId id)))
  sweeps (collection : String) (now : Int) :
    P _ (Task.call (.deleteMany collection (Sweep.expired now)))

namespace Parts

variable {P : (α : Type) → Task α → Prop} {v : VectorStore} {embedder : Embedder}
  (parts : Parts P v embedder)
include parts

theorem ofResult {α : Type} (r : Result α) : P _ (Task.ofResult r) := parts.closed.result r

theorem bind {α β : Type} {t : Task α} {f : α → Task β} (first : P _ t)
    (behind : ∀ a, P _ (f a)) : P _ (t >>= f) :=
  parts.closed.bind first behind

theorem silenced {α : Type} {t : Task α} (holds : P _ t) : P _ (silent t) :=
  parts.bind holds fun _ => parts.ofResult (.ok ())

theorem dispatches {α : Type} {c : Coordinator} {items : List (Task α)}
    (each : ∀ t ∈ items, P _ t) : ∀ t ∈ dispatched c items, P _ t := by
  unfold dispatched
  split
  · intro t member
    obtain ⟨item, among, rfl⟩ := List.mem_map.mp member
    exact parts.silenced (each item among)
  · exact fun _ none => nomatch none

theorem storeSearch (vector : Embedding) (count : Nat) (filters : Filters) :
    P _ (v.search vector count filters) :=
  v.search_of_parts parts.closed vector count filters parts.ensures fun _ =>
    parts.reads _ fun _ => rfl

theorem get (id : String) : P _ (v.get id) := by
  refine parts.bind (parts.reads _ fun _ => rfl) fun found => ?_
  cases found <;> exact parts.ofResult _

theorem list (filters : Filters) (limit : Nat) : P _ (v.list filters limit) := by
  refine parts.bind (parts.ofResult _) fun filter => ?_
  split
  · exact parts.ofResult (.ok _)
  · exact parts.bind (parts.reads _ fun _ => rfl) fun _ => parts.ofResult _

theorem delete (id : String) : P _ (v.delete id) := by
  refine parts.bind (parts.deletes id) fun deleted => ?_
  split <;> exact parts.ofResult _

theorem sweep (collection : String) (now : Int) : P _ (Sweep.run collection now) :=
  parts.bind (parts.reads _ fun _ => rfl) fun _ =>
    parts.bind (parts.sweeps collection now) fun _ => parts.ofResult (.ok _)

theorem engineUpdate (id content : String) : P _ (Direct.update v embedder id content) := by
  unfold Direct.update
  cases embedded : embedder.embedOne content with
  | error cause => exact parts.ofResult (.error cause)
  | ok vector =>
    have updates : P _ (v.update id ⟨some content, none, some vector⟩) :=
      v.update_of_parts parts.closed id _ fun fields made => parts.updates id embedded made
    exact updates

theorem engineAdd (input : MemoryInput) (scope : Scope) (metadata : Object) :
    P _ (Direct.add v embedder input scope metadata) := by
  unfold Direct.add
  simp only
  split
  · exact parts.ofResult (.ok none)
  refine parts.bind (parts.ofResult _) fun _ => ?_
  cases made : Direct.payload input.toText scope metadata with
  | error cause => exact parts.ofResult (.error cause)
  | ok payload =>
    cases embedded : embedder.embedOne input.toText with
    | error cause => exact parts.ofResult (.error cause)
    | ok vector => exact parts.inserts made embedded

theorem engineGet (id : String) : P _ ((Direct.engine v embedder).get id) :=
  parts.bind (parts.get id) fun _ => parts.ofResult (.ok _)

variable (lifetime : Int) (coordinator : Coordinator)

theorem add (now : Int) (r : AddRequest) :
    P _ (Service.add (.direct v embedder lifetime coordinator) now r) :=
  parts.bind (parts.ofResult r.validate) fun _ => parts.bind (parts.ofResult _) fun metadata =>
    parts.bind (parts.engineAdd r.messages r.scope metadata) fun _ => parts.ofResult (.ok _)

theorem search (now : Int) (r : SearchRequest) :
    P _ (Service.search (.direct v embedder lifetime coordinator) now r) := by
  refine parts.bind (parts.ofResult r.validate) fun _ => parts.bind ?_ fun _ =>
    parts.ofResult (.ok _)
  exact parts.bind (parts.ofResult _) fun vector => parts.bind (parts.storeSearch vector _ _)
    fun _ => parts.ofResult (.ok _)

theorem getAll (now : Int) (scope : Scope) (limit : Nat) :
    P _ (Service.getAll (.direct v embedder lifetime coordinator) now scope limit) := by
  refine parts.bind (parts.ofResult scope.validate) fun _ => parts.bind ?_ fun _ =>
    parts.ofResult (.ok _)
  exact parts.bind (parts.list _ _) fun _ => parts.ofResult (.ok _)

theorem update (id content : String) :
    P _ (Service.update (.direct v embedder lifetime coordinator) id content) := by
  unfold Service.update
  split
  · exact parts.ofResult (.error _)
  · exact parts.bind (parts.engineUpdate id content) fun _ => parts.engineGet id

theorem deletion (id : String) :
    P _ (Service.deletion (.direct v embedder lifetime coordinator) id) :=
  parts.bind (parts.delete id) fun _ => parts.ofResult (.ok id)

theorem tasks (o : Errand) :
    ∀ t ∈ o.tasks (.direct v embedder lifetime coordinator), P _ t := by
  have one {α : Type} {t : Task α} (holds : P _ t) : ∀ t' ∈ [silent t], P _ t' :=
    List.forall_mem_singleton.mpr (parts.silenced holds)
  cases o with
  | add now r => exact one (parts.add _ _ now r)
  | search now r => exact one (parts.search _ _ now r)
  | get id => exact one (parts.engineGet id)
  | getAll now scope limit => exact one (parts.getAll _ _ now scope limit)
  | update id content => exact one (parts.update _ _ id content)
  | delete id => exact one (parts.delete id)
  | history id => exact one (parts.ofResult (.ok []))
  | deleteExpired collection now => exact one (parts.sweep collection now)
  | batchAdd now rs =>
    exact parts.dispatches (List.forall_mem_map.mpr fun r _ => parts.add _ _ now r)
  | batchSearch now rs =>
    exact parts.dispatches (List.forall_mem_map.mpr fun r _ => parts.search _ _ now r)
  | batchDelete ids =>
    rw [Errand.tasks, Service.deleteTasks_eq]
    exact parts.dispatches (List.forall_mem_map.mpr fun id _ => parts.deletion _ _ id)

end Parts

end Errand

/-- The writes that errands make, with what is known when they are made. -/
inductive Call.Writes (v : VectorStore) (embedder : Embedder) (w : World Database) : Call → Prop
  | insert {n : Nat} {r : Record} {text : String} {scope : Scope} {metadata : Object}
      (issued : n ≤ w.store.issued) (named : r.id = identifier n)
      (made : Direct.payload text scope metadata = .ok r.payload)
      (embedded : embedder.embedOne text = .ok r.vector)
      (valid : r.validate v.settings.dimensions = .ok ()) :
      Writes v embedder w (.insert v.collection [r.toDocument])
  | update {id content : String} {vector : Embedding} {fields : Object}
      (embedded : embedder.embedOne content = .ok vector)
      (made : v.changedFields ⟨some content, none, some vector⟩ = .ok fields) :
      Writes v embedder w (.update v.collection (Document.withId id) [("$set", .object fields)])
  | delete {id : String} : Writes v embedder w (.deleteOne v.collection (Document.withId id))
  | sweep {collection : String} {now : Int} :
      Writes v embedder w (.deleteMany collection (Sweep.expired now))

def World.called (w : World Database) (c : Call) : World Database :=
  { w with store := (DocumentStore.perform c w.store).2 }

/-- A rule that holds of the calls of errands; `Ready` is known once the index has been seen to. -/
structure Rule.Minded (rule : Rule Database) (v : VectorStore) (embedder : Embedder)
    (Ready : World Database → Prop) : Prop where
  numbered : ∀ {w w'}, rule.Allows w w' → w.store.issued ≤ w'.store.issued
  ensures : ∀ w, v.ensureIndex.Abides rule (fun _ w => Ready w) w
  stays : ∀ {w w'}, rule.Leads w w' → Ready w → Ready w'
  reads : ∀ {c : Call} {w}, rule.Holds w → (∀ db, (Database.execute c db).2 = db) →
    rule.Leads w (w.called c)
  issues : ∀ {w}, rule.Holds w →
    rule.Leads w { w with store := (DocumentStore.newId w.store).2 }
  writes : ∀ {c : Call} {w}, rule.Holds w → c.Writes v embedder w →
    (c.verb = "insert" → Ready w) → rule.Leads w (w.called c)

namespace Rule.Minded

variable {rule : Rule Database} {v : VectorStore} {embedder : Embedder}
  {Ready : World Database → Prop} (minded : rule.Minded v embedder Ready)
include minded

theorem write {c : Call} (writes : ∀ w, c.Writes v embedder w) (later : c.verb ≠ "insert") :
    (Task.call c).Observes rule := fun _ =>
  Task.abides_call fun w' leads =>
    ⟨minded.writes leads.holds (writes w') fun inserts => absurd inserts later,
      fun _ _ _ _ => trivial⟩

theorem storeInsert {n : Nat} {r : Record} {text : String} {scope : Scope} {metadata : Object}
    (named : r.id = identifier n) (made : Direct.payload text scope metadata = .ok r.payload)
    (embedded : embedder.embedOne text = .ok r.vector) {w : World Database}
    (issued : n ≤ w.store.issued) :
    (v.insert [r.id] [r.vector] [r.payload]).Abides rule (fun _ _ => True) w := by
  have result {α : Type} (r : Result α) : (Task.ofResult r).Observes rule :=
    (Task.closed_observes rule).result r
  unfold VectorStore.insert
  rw [v.documents_record]
  cases valid : r.validate v.settings.dimensions with
  | error cause => exact result (.error cause) w
  | ok _ =>
    refine Task.Abides.bind (t := v.ensureIndex) (minded.ensures w) fun status w' leads ready => ?_
    refine Task.Abides.bind (M := fun _ _ => True)
      (Task.abides_call fun w'' further => ⟨?_, fun _ _ _ _ => trivial⟩)
      fun _ w'' _ _ => result (.ok ()) w''
    refine minded.writes further.holds (.insert ?_ named made embedded valid) fun _ =>
      minded.stays further ready
    exact issued.trans (minded.numbered (leads.trans further).allows)

theorem parts : Errand.Parts (fun _ t => t.Observes rule) v embedder where
  closed := Task.closed_observes rule
  ensures := Task.observes_of_abides minded.ensures
  reads c unchanged _ :=
    Task.abides_call fun _ leads => ⟨minded.reads leads.holds unchanged, fun _ _ _ _ => trivial⟩
  inserts {text _ _ payload vector} made embedded w := by
    refine Task.Abides.bind (M := fun id w => ∃ n, n ≤ w.store.issued ∧ id = identifier n)
      (fun w' leads => ?_) fun id w' leads known => ?_
    · refine ⟨minded.issues leads.holds, fun w'' further id same => ?_⟩
      obtain rfl := Except.ok.inj same
      exact ⟨w'.store.issued + 1, minded.numbered further.allows, rfl⟩
    · obtain ⟨n, issued, named⟩ := known
      have inserts := minded.storeInsert (r := ⟨id, vector, payload⟩) named made embedded issued
      exact inserts.bind fun _ w'' _ _ => (Task.closed_observes rule).result (.ok _) w''
  updates _ embedded made :=
    minded.write (fun _ => .update embedded made) (show "update" ≠ "insert" by decide)
  deletes _ := minded.write (fun _ => .delete) (show "deleteOne" ≠ "insert" by decide)
  sweeps _ _ := minded.write (fun _ => .sweep) (show "deleteMany" ≠ "insert" by decide)

/-- Errands that are carried out on an empty store leave a world under the rule, at any moment. -/
theorem during (lifetime : Int) (coordinator : Coordinator) (start : rule.Holds ⟨.empty, .empty⟩)
    (errands : List Errand) (schedule : List Nat) :
    rule.Leads ⟨.empty, .empty⟩
      (Service.during (.direct v embedder lifetime coordinator) errands schedule) := by
  refine (Pool.abides_follow start (Q := fun _ _ => True) (fun p member => ?_) schedule).1
  obtain ⟨t, among, rfl⟩ := List.mem_map.mp member
  obtain ⟨o, -, among⟩ := List.mem_flatMap.mp among
  exact (minded.parts.tasks lifetime coordinator o t among ⟨.empty, .empty⟩).weaken
    fun _ _ _ => trivial

end Rule.Minded

end MemoryBank
