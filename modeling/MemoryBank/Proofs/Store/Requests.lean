import MemoryBank.Proofs.Index.Ensuring
import MemoryBank.Proofs.Store.Finding
import MemoryBank.Proofs.Store.Ledger

set_option autoImplicit false

/-!
Requests to one adapter, one after another, on a store that is empty at first. All answers, and the
documents that are left, are those of a ledger.
-/

namespace MemoryBank

/-- What may be asked of an adapter, but for similarity searches and lists with filters. -/
inductive Request
  | insert (ids : List String) (vectors : List Embedding) (payloads : List Payload)
  | get (id : String)
  -- without any filter
  | list (limit : Nat)
  | update (id : String) (change : Change)
  | delete (id : String)
  | deleteExpired (now : Int)
  | reset
  | deleteCollection (name : String)
  | collectionInfo (name : String)

namespace Request

@[reducible] def Answer : Request → Type
  | insert _ _ _ => Unit
  | get _ => StoredMemory
  | list _ => List StoredMemory
  | update _ _ => Unit
  | delete _ => Unit
  | deleteExpired _ => SweepReport
  | reset => Unit
  | deleteCollection _ => Unit
  | collectionInfo _ => CollectionInfo

def task (v : VectorStore) : (r : Request) → Task r.Answer
  | insert ids vectors payloads => v.insert ids vectors payloads
  | get id => v.get id
  | list limit => v.list .empty limit
  | update id change => v.update id change
  | delete id => v.delete id
  | deleteExpired now => Sweep.run v.collection now
  | reset => v.reset
  | deleteCollection name => v.deleteCollection name
  | collectionInfo name => v.collectionInfo name

/-- The answers to requests, one after another, and the state they lead to. -/
def serve {σ : Type} (step : (r : Request) → σ → Result r.Answer × σ) :
    List Request → σ → List ((r : Request) × Result r.Answer) × σ
  | [], s => ([], s)
  | r :: rest, s =>
      let (answer, s) := step r s
      let (answers, s) := serve step rest s
      (⟨r, answer⟩ :: answers, s)

end Request

namespace VectorStore

/-- The ledger that memories are added to: a new one if there is none, provided that the collection
can be given its index. -/
def opened (v : VectorStore) : Option Ledger → Result Ledger
  | some l => .ok l
  | none =>
      if v.collection.isEmpty then
        .error (.store (.commandWithoutCollection listIndexesCommand))
      else if v.settings.dimensions = 0 then .error (.store .badDimensions)
      else .ok .empty

/-- Adds entries to the ledger; without any nothing is opened. -/
def added (v : VectorStore) (es : List Entry) (s : Option Ledger) : Result Unit × Option Ledger :=
  if es.isEmpty then (.ok (), s)
  else match v.opened s with
    | .error cause => (.error cause, s)
    | .ok l =>
        let (outcome, l) := l.addAll v.collection es
        (outcome, some l)

/-- What a request does to the ledger of the collection, and its answer. A request that is invalid
changes nothing, whatever the ledger says. -/
def record (v : VectorStore) :
    (r : Request) → Option Ledger → Result r.Answer × Option Ledger
  | .insert ids vectors payloads, s =>
      match v.documents ids vectors payloads with
      | .error cause => (.error cause, s)
      | .ok _ => v.added (Entry.ofRecords ids vectors payloads) s
  | .get id, s =>
      match (s.getD .empty).find? id with
      | none => (.error (.notFound (.memory id)), s)
      | some e => (e.memory, s)
  | .list limit, s => (((s.getD .empty).entries.take limit).mapM Entry.memory, s)
  | .update id change, s =>
      if change.isEmpty then (.error (.validation .emptyChange), s)
      else match v.changedFields change with
        | .error cause => (.error cause, s)
        | .ok _ =>
            if id ∈ (s.getD .empty).ids then (.ok (), s.map (·.change id change))
            else (.error (.notFound (.memory id)), s)
  | .delete id, s =>
      if id ∈ (s.getD .empty).ids then (.ok (), s.map (·.without id))
      else (.error (.notFound (.memory id)), s)
  | .deleteExpired now, s =>
      let due := (s.getD .empty).keep (·.due now)
      (.ok ⟨due.entries.length, due.ids⟩, s.map (·.keep (!·.due now)))
  | .reset, _ =>
      if v.settings.dimensions = 0 then (.error (.validation .zeroDimensions), none)
      else match v.opened none with
        | .error cause => (.error cause, none)
        | .ok l => (.ok (), some l)
  | .deleteCollection name, s => (.ok (), if name = v.collection then none else s)
  | .collectionInfo name, s =>
      if name.isEmpty then (.error (.store (.commandWithoutCollection statisticsCommand)), s)
      else match if name = v.collection then s else none with
        | none => (.error (.notFound (.collection name)), s)
        | some l => (.ok (l.info name), s)

/-- The store holds what the ledger says, and the index of a collection has been seen to once the
collection is there. -/
structure Follows (v : VectorStore) (s : Option Ledger) (w : World Database) : Prop where
  store : w.store.Holds v.collection s
  verdict : (w.verdicts.get? v.collection).isSome = s.isSome

/-- A request is answered as the ledger says, and leaves what the ledger says. -/
def Agrees (v : VectorStore) (r : Request) (s : Option Ledger) (w : World Database) : Prop :=
  (Task.run (r.task v) w).1 = (v.record r s).1 ∧
    v.Follows (v.record r s).2 (Task.run (r.task v) w).2

theorem opened_none {v : VectorStore} (word : v.settings.dimensions < pow2 32) :
    v.opened none = (fun _ => .empty) <$>
      Upkeep.readied v.collection (v.descriptor v.collection v.settings.dimensions) := by
  rw [Upkeep.readied, descriptor,
    IndexDescriptor.validate_forCollection v.collection v.settings.indexKind word]
  simp only [opened]
  split
  · rfl
  · split <;> rfl

section Bare

variable {v : VectorStore} {s : Option Ledger} {w : World Database}
  (holds : w.store.Holds v.collection s) (vacant : w.store.opened v.collection = .empty)
  (unknown : w.verdicts.get? v.collection = none) (word : v.settings.dimensions < pow2 32)
include holds vacant unknown word

theorem run_ensureIndex_refused {cause : Failure} (refused : v.opened none = .error cause) :
    ∃ w', Task.run v.ensureIndex w = (.error cause, w') ∧ w'.store.Holds v.collection s ∧
      w'.verdicts = w.verdicts := by
  obtain ⟨log, ran⟩ := Upkeep.run_ensure_bare holds.online unknown
    (congrArg Collection.indexes vacant) (v.descriptor v.collection v.settings.dimensions)
  rw [opened_none word] at refused
  cases ready : Upkeep.readied v.collection (v.descriptor v.collection v.settings.dimensions) with
  | ok _ => rw [ready] at refused; cases refused
  | error cause' =>
    rw [ready] at refused ran
    obtain rfl := Except.error.inj refused
    exact ⟨_, ran, holds.logged log, rfl⟩

theorem run_ensureIndex_readied {l : Ledger} (ready : v.opened none = .ok l) :
    ∃ status w', Task.run v.ensureIndex w = (.ok status, w') ∧ v.Follows (some l) w' := by
  obtain ⟨log, ran⟩ := Upkeep.run_ensure_bare holds.online unknown
    (congrArg Collection.indexes vacant) (v.descriptor v.collection v.settings.dimensions)
  rw [opened_none word] at ready
  obtain ⟨_, passed, rfl⟩ := Fallible.map_eq_ok.mp ready
  rw [passed] at ran
  refine ⟨_, _, ran, (holds.logged log).put (congrArg Collection.documents vacant), ?_⟩
  rw [NameMap.get?_insert, if_pos rfl]
  rfl

end Bare

namespace Follows

variable {v : VectorStore} {s : Option Ledger} {w : World Database}

/-- A call on a store that can be reached, and what it leaves. -/
theorem call (follows : v.Follows s w) (c : Call) {reply : Result c.Reply} {s' : Option Ledger}
    (replies : (Database.execute c (.arrive c w.store)).1 = reply)
    (holds : (Database.execute c (.arrive c w.store)).2.Holds v.collection s')
    (same : s'.isSome = s.isSome) :
    ∃ w', Task.run (Task.call c) w = (reply, w') ∧ v.Follows s' w' := by
  refine ⟨{ w with store := (Database.execute c (.arrive c w.store)).2 }, ?_, holds,
    follows.verdict.trans same.symm⟩
  rw [Task.run_call, Database.perform_of_online follows.store.online, replies]

theorem get (follows : v.Follows s w) (id : String) : v.Agrees (.get id) s w := by
  have holds := follows.store.arrive (.findOne v.collection (Document.withId id))
  have found := Database.findOne_withId
    (.arrive (.findOne v.collection (Document.withId id)) w.store) v.collection id
  rw [holds.documents, Ledger.find?_documents] at found
  obtain ⟨w', called, after⟩ := follows.call (.findOne _ _) found holds rfl
  simp only [Agrees, Request.task, VectorStore.get, record]
  rw [Task.run_bind, called]
  cases (s.getD .empty).find? id with
  | none => exact ⟨rfl, after⟩
  | some e => exact ⟨e.ofDocument_document, after⟩

theorem list (follows : v.Follows s w) (limit : Nat) : v.Agrees (.list limit) s w := by
  have unfiltered : Filters.predicate .empty storedPayloadPath = .ok [] := rfl
  have each : (StoredMemory.ofDocument none ∘ Entry.document) = Entry.memory :=
    funext Entry.ofDocument_document
  simp only [Agrees, Request.task, VectorStore.list, record, unfiltered]
  cases limit with
  | zero => exact ⟨rfl, follows⟩
  | succ limit =>
    have holds := follows.store.arrive (.find v.collection [] (some (limit + 1)))
    obtain ⟨w', called, after⟩ := follows.call (.find _ _ _) (holds.find limit) holds rfl
    rw [Task.run_bind, Task.run_ofResult]
    simp only [Nat.succ_ne_zero, if_false]
    rw [Task.run_bind, called]
    refine ⟨?_, after⟩
    simp only [Task.run_ofResult]
    rw [Ledger.documents, ← List.map_take, List.mapM_map, each]

theorem update (follows : v.Follows s w) (id : String) (change : Change) :
    v.Agrees (.update id change) s w := by
  simp only [Agrees, Request.task, VectorStore.update, record]
  cases change.isEmpty with
  | true => exact ⟨rfl, follows⟩
  | false =>
    simp only [Bool.false_eq_true, if_false]
    cases made : v.changedFields change with
    | error cause => exact ⟨rfl, follows⟩
    | ok fields =>
      have holds := follows.store.arrive
        (.update v.collection (Document.withId id) [("$set", .object fields)])
      obtain ⟨matched, left⟩ := holds.update id made
      obtain ⟨count, replies, matched⟩ := Fallible.map_eq_ok.mp matched
      obtain ⟨w', called, after⟩ := follows.call (.update _ _ _) replies left (by simp)
      rw [Task.run_bind, Task.run_ofResult]
      simp only
      rw [Task.run_bind, called]
      simp only [matched]
      by_cases known : id ∈ (s.getD .empty).ids
      · simp only [known, if_true]
        exact ⟨rfl, after⟩
      · rw [Ledger.map_of_not_mem known fun l new => l.change_of_not_mem new change] at after
        simp only [known, if_false]
        exact ⟨rfl, after⟩

theorem delete (follows : v.Follows s w) (id : String) : v.Agrees (.delete id) s w := by
  have holds := follows.store.arrive (.deleteOne v.collection (Document.withId id))
  obtain ⟨replies, left⟩ := holds.deleteOne id
  obtain ⟨w', called, after⟩ := follows.call (.deleteOne _ _) replies left (by simp)
  simp only [Agrees, Request.task, VectorStore.delete, record]
  rw [Task.run_bind, called]
  by_cases known : id ∈ (s.getD .empty).ids
  · simp only [known, if_true]
    exact ⟨rfl, after⟩
  · rw [Ledger.map_of_not_mem known fun l new => l.without_of_not_mem new] at after
    simp only [known, if_false]
    exact ⟨rfl, after⟩

theorem deleteExpired (follows : v.Follows s w) (now : Int) :
    v.Agrees (.deleteExpired now) s w := by
  have found := follows.store.arrive (.find v.collection (Sweep.expired now) none)
  have judged : ∀ d ∈ (Database.arrive (.find v.collection (Sweep.expired now) none)
      w.store).documents v.collection, d.satisfies (Sweep.expired now) = .ok (Sweep.due now d) :=
    fun d _ => Sweep.satisfies_expired now d
  have replies := Database.find_of_satisfies judged
  rw [found.documents, Ledger.filter_documents _ (Entry.due_document now)] at replies
  obtain ⟨w₁, called, between⟩ := follows.call (.find _ _ _) replies found rfl
  have holds := between.store.arrive (.deleteMany v.collection (Sweep.expired now))
  obtain ⟨replies, left⟩ := holds.deleteMany now
  obtain ⟨w', called', after⟩ := between.call (.deleteMany _ _) replies left (by simp)
  simp only [Agrees, Request.task, Sweep.run, record]
  rw [Task.run_bind, called]
  simp only
  rw [Task.run_bind, called', List.countP_eq_length_filter]
  exact ⟨congrArg (Except.ok <| SweepReport.mk _ ·) (Ledger.id?_documents _), after⟩

theorem collectionInfo (follows : v.Follows s w) (name : String) :
    v.Agrees (.collectionInfo name) s w := by
  have holds := follows.store.arrive (.command (Document.command statisticsCommand name))
  obtain ⟨indexes, replies⟩ := holds.statistics name
  obtain ⟨w', called, after⟩ := follows.call
    (.command (Document.command statisticsCommand name)) replies holds rfl
  simp only [Agrees, Request.task, VectorStore.collectionInfo, record]
  rw [Task.run_bind, called]
  cases name.isEmpty with
  | true => exact ⟨rfl, after⟩
  | false =>
    simp only [Bool.false_eq_true, if_false]
    cases (if name = v.collection then s else none) with
    | none => exact ⟨rfl, after⟩
    | some l =>
      exact ⟨congrArg Except.ok (l.info_eq name indexes).symm, after⟩

theorem deleteCollection (follows : v.Follows s w) (name : String) :
    v.Agrees (.deleteCollection name) s w := by
  have called := Task.run_call (.dropCollection name) w
  rw [Database.perform_of_online follows.store.online] at called
  simp only [Agrees, Request.task, VectorStore.deleteCollection, record]
  rw [Task.run_bind, called]
  refine ⟨rfl, (follows.store.arrive (.dropCollection name)).dropCollection name, ?_⟩
  change ((w.verdicts.erase name).get? v.collection).isSome = _
  rw [NameMap.get?_erase]
  by_cases here : name = v.collection
  · rw [if_pos here, if_pos here.symm]
    rfl
  · rw [if_neg here, if_neg (Ne.symm here)]
    exact follows.verdict

theorem vacant (follows : v.Follows none w) :
    w.store.opened v.collection = .empty ∧ w.verdicts.get? v.collection = none := by
  refine ⟨?_, by simpa using follows.verdict⟩
  rw [Database.opened, follows.store.missing]
  rfl

theorem run_ensureIndex_eq_ok (follows : v.Follows s w) (word : v.settings.dimensions < pow2 32)
    {l : Ledger} (opened : v.opened s = .ok l) :
    ∃ status w', Task.run v.ensureIndex w = (.ok status, w') ∧ v.Follows (some l) w' := by
  cases s with
  | none =>
    exact run_ensureIndex_readied follows.store follows.vacant.1 follows.vacant.2 word opened
  | some l' =>
    obtain rfl := Except.ok.inj opened
    obtain ⟨status, standing⟩ := Option.isSome_iff_exists.mp follows.verdict
    exact ⟨status, w, run_ensure_of_standing standing _, follows⟩

theorem run_ensureIndex_eq_error (follows : v.Follows s w)
    (word : v.settings.dimensions < pow2 32) {cause : Failure}
    (refused : v.opened s = .error cause) :
    ∃ w', Task.run v.ensureIndex w = (.error cause, w') ∧ v.Follows s w' := by
  cases s with
  | none =>
    obtain ⟨w', ran, holds, same⟩ :=
      run_ensureIndex_refused follows.store follows.vacant.1 follows.vacant.2 word refused
    exact ⟨w', ran, holds, same ▸ follows.verdict⟩
  | some l => cases refused

theorem insert (follows : v.Follows s w) (word : v.settings.dimensions < pow2 32)
    (ids : List String) (vectors : List Embedding) (payloads : List Payload) :
    v.Agrees (.insert ids vectors payloads) s w := by
  simp only [Agrees, Request.task, VectorStore.insert, record]
  cases made : v.documents ids vectors payloads with
  | error cause => exact ⟨rfl, follows⟩
  | ok ds =>
    have written : ds = (Entry.ofRecords ids vectors payloads).map Entry.document := by
      rw [documents_eq_ok made, Entry.ofRecords, List.map_map]
      rfl
    generalize Entry.ofRecords ids vectors payloads = es at written
    subst written
    rw [Task.run_bind, Task.run_ofResult]
    simp only [VectorStore.added, List.isEmpty_map]
    cases es.isEmpty with
    | true => exact ⟨rfl, follows⟩
    | false =>
      simp only [Bool.false_eq_true, if_false]
      cases opened : v.opened s with
      | error cause =>
        obtain ⟨w', ran, after⟩ := follows.run_ensureIndex_eq_error word opened
        rw [Task.run_bind, ran]
        exact ⟨rfl, after⟩
      | ok l =>
        obtain ⟨status, w₁, ran, between⟩ := follows.run_ensureIndex_eq_ok word opened
        rw [Task.run_bind, ran]
        simp only
        have holds := between.store.arrive (.insert v.collection (es.map Entry.document))
        obtain ⟨replies, left⟩ := holds.insert es
        obtain ⟨w', called, after⟩ := between.call (.insert _ _) rfl left rfl
        rw [Task.run_discard, called]
        exact ⟨replies, after⟩

theorem run_create (follows : v.Follows none w) (word : v.settings.dimensions < pow2 32)
    {l : Ledger} (ready : v.opened none = .ok l) :
    ∃ w', Task.run (do
        Task.call (.createCollection v.collection)
        let _ ← v.ensureIndex) w = (.ok (), w') ∧ v.Follows (some l) w' := by
  obtain ⟨db, created, holds, bare⟩ : ∃ db,
      Task.run (Task.call (.createCollection v.collection)) w = (.ok (), ⟨db, w.verdicts⟩) ∧
        db.Holds v.collection (some .empty) ∧ db.opened v.collection = .empty := by
    have opened : (Database.arrive (.createCollection v.collection) w.store).opened v.collection =
        .empty := follows.vacant.1
    refine ⟨.put (.arrive (.createCollection v.collection) w.store) v.collection .empty, ?_,
      (follows.store.arrive _).put rfl, by rw [Database.opened_put, if_pos rfl]⟩
    rw [Task.run_call, Database.perform_of_online follows.store.online, Database.execute, opened]
  obtain ⟨status, w', ran, after⟩ := run_ensureIndex_readied (w := ⟨db, w.verdicts⟩) holds bare
    follows.vacant.2 word ready
  refine ⟨w', ?_, after⟩
  rw [Task.run_bind, created]
  exact (Task.run_discard _ _).trans (by rw [ran]; rfl)

theorem createCollection (follows : v.Follows none w) (word : v.settings.dimensions < pow2 32) :
    (Task.run (v.createCollection v.collection v.settings.dimensions) w).1 =
        (v.record .reset none).1 ∧
      v.Follows (v.record .reset none).2
        (Task.run (v.createCollection v.collection v.settings.dimensions) w).2 := by
  simp only [VectorStore.createCollection, record]
  by_cases flat : v.settings.dimensions = 0
  · simp only [flat, if_true]
    exact ⟨rfl, follows⟩
  · simp only [flat, if_false]
    rw [Task.run_bind, Upkeep.run_inspect_online follows.store.online]
    have inspected := follows.store.arrive
      (.command (Document.command listIndexesCommand v.collection))
    cases named : v.collection.isEmpty with
    | true =>
      simp only [opened, named]
      exact ⟨rfl, inspected, follows.verdict⟩
    | false =>
      have unseen : w.store.reported v.collection = none := by
        rw [Database.reported, Database.indexes, follows.vacant.1]
        rfl
      have ready : v.opened none = .ok .empty := by
        simp only [opened, named, flat, Bool.false_eq_true, if_false]
      obtain ⟨w', ran, after⟩ := run_create (w := ⟨_, w.verdicts⟩)
        ⟨inspected, follows.verdict⟩ word ready
      simp only [Bool.false_eq_true, if_false, unseen, ready]
      exact ran.symm ▸ ⟨rfl, after⟩

theorem reset (follows : v.Follows s w) (word : v.settings.dimensions < pow2 32) :
    v.Agrees .reset s w := by
  -- whatever was there has been dropped when the collection is made, so it is made anew
  obtain ⟨dropped, between⟩ := follows.deleteCollection v.collection
  simp only [Request.task, record, if_true] at dropped between
  generalize ran : Task.run (v.deleteCollection v.collection) w = outcome at dropped between
  obtain ⟨answer, w₁⟩ := outcome
  obtain rfl : answer = .ok () := dropped
  unfold Agrees
  rw [Request.task, VectorStore.reset, Task.run_bind, ran]
  exact createCollection between word

theorem agrees (follows : v.Follows s w) (word : v.settings.dimensions < pow2 32) (r : Request) :
    v.Agrees r s w := by
  cases r with
  | insert ids vectors payloads => exact follows.insert word ids vectors payloads
  | get id => exact follows.get id
  | list limit => exact follows.list limit
  | update id change => exact follows.update id change
  | delete id => exact follows.delete id
  | deleteExpired now => exact follows.deleteExpired now
  | reset => exact follows.reset word
  | deleteCollection name => exact follows.deleteCollection name
  | collectionInfo name => exact follows.collectionInfo name

theorem serve (follows : v.Follows s w) (word : v.settings.dimensions < pow2 32)
    (rs : List Request) :
    (Request.serve (fun r w => Task.run (r.task v) w) rs w).1 =
        (Request.serve v.record rs s).1 ∧
      v.Follows (Request.serve v.record rs s).2
        (Request.serve (fun r w => Task.run (r.task v) w) rs w).2 := by
  induction rs generalizing s w with
  | nil => exact ⟨rfl, follows⟩
  | cons r rest ih =>
    obtain ⟨answered, after⟩ := follows.agrees word r
    obtain ⟨others, left⟩ := ih after
    refine ⟨?_, left⟩
    simp only [Request.serve]
    rw [answered, others]

end Follows

/-- What becomes of requests on an empty store. -/
def served (v : VectorStore) (rs : List Request) :
    List ((r : Request) × Result r.Answer) × World Database :=
  Request.serve (fun r w => Task.run (r.task v) w) rs ⟨.empty, .empty⟩

/-- What the ledger says of requests where there is no collection at first. -/
def recorded (v : VectorStore) (rs : List Request) :
    List ((r : Request) × Result r.Answer) × Option Ledger :=
  Request.serve v.record rs none

/-- An adapter answers all requests as the ledger does, and the collections of the store are the one
of the ledger, with the documents of its entries in their order. -/
theorem served_as_recorded (v : VectorStore) (word : v.settings.dimensions < pow2 32)
    (rs : List Request) :
    (v.served rs).1 = (v.recorded rs).1 ∧
      ∀ name, ((v.served rs).2.store.find? name).map (·.documents) =
        (if name = v.collection then (v.recorded rs).2 else none).map Ledger.documents := by
  have bare : v.Follows none ⟨.empty, .empty⟩ := ⟨⟨rfl, rfl, fun _ _ => rfl⟩, rfl⟩
  obtain ⟨answers, after⟩ := bare.serve word rs
  exact ⟨answers, after.store.find?_documents⟩

/-- The second insertion stops at an id that is taken, and what came before it stays. -/
theorem served_up_to_taken_id :
    1 < pow2 32 ∧
      (served ⟨⟨"memories", 1, .diskann, 0, 50⟩⟩
        [.insert ["a"] [[.ofInt 1]] [.new "t" .fact ⟨some "u", none, none⟩],
          .insert ["b", "a"] [[.ofInt 1], [.ofInt 1]]
            [.new "t" .fact ⟨some "u", none, none⟩, .new "t" .fact ⟨some "u", none, none⟩],
          .delete "c", .list 5]).1 =
        [⟨.insert ["a"] [[.ofInt 1]] [.new "t" .fact ⟨some "u", none, none⟩], .ok ()⟩,
          ⟨.insert ["b", "a"] [[.ofInt 1], [.ofInt 1]]
            [.new "t" .fact ⟨some "u", none, none⟩, .new "t" .fact ⟨some "u", none, none⟩],
            .error (.store (.duplicateId "memories" (.string "a")))⟩,
          ⟨.delete "c", .error (.notFound (.memory "c"))⟩,
          ⟨.list 5, .ok [⟨"a", none, .new "t" .fact ⟨some "u", none, none⟩⟩,
            ⟨"b", none, .new "t" .fact ⟨some "u", none, none⟩⟩]⟩] :=
  ⟨by decide, (served_as_recorded _ (by decide) _).1.trans rfl⟩

/-- An invalid change is refused as such, also where there is nothing to change. -/
theorem update_refused_before_lookup :
    (served ⟨⟨"memories", 1, .diskann, 0, 50⟩⟩
      [.get "x", .update "x" ⟨none, some [("data", .string "t")], none⟩]).1 =
      [⟨.get "x", .error (.notFound (.memory "x"))⟩,
        ⟨.update "x" ⟨none, some [("data", .string "t")], none⟩,
          .error (.validation (.reservedKey "data"))⟩] := rfl

end VectorStore

end MemoryBank
