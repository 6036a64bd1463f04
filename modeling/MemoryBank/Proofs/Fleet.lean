import MemoryBank.Proofs.Store.Changes
import MemoryBank.Proofs.Store.Finding
import MemoryBank.Proofs.Store.Operations
import MemoryBank.Proofs.Store.Remaining
import MemoryBank.Proofs.Sweep

set_option autoImplicit false

/-!
Several adapters on one store, each with its own settings and verdicts, one operation after another:
whether a memory that one of them has inserted is found again by its vector.
-/

namespace MemoryBank

namespace Operation

/-- The operation leaves this memory alone. -/
def Spares (v : VectorStore) (collection : String) (r : Record) : Operation → Prop
  | update id _ => v.collection = collection → id ≠ r.id
  | delete id => v.collection = collection → id ≠ r.id
  | deleteCollection name => name ≠ collection
  | reset => v.collection ≠ collection
  | sweep now => v.collection = collection → Sweep.due now r.toDocument = false
  | _ => True

theorem satisfies_withId_of_ne {id : String} {r : Record} (other : id ≠ r.id) :
    r.toDocument.satisfies (Document.withId id) = .ok false := by
  rw [Document.satisfies_withId]
  exact congrArg Except.ok (decide_eq_false (Ne.symm other))

theorem spares_of_calls {v : VectorStore} {collection : String} {r : Record} {o : Operation}
    (spares : o.Spares v collection r) {c : Call} (calls : o.Calls v c) :
    c.Spares collection r.toDocument := by
  rcases calls with makes | ⟨name, drops, rfl⟩ | ⟨_, rfl⟩ | ⟨_, _, rfl⟩
  · cases o with
    | ensureIndex | deleteCollection _ => cases makes
    | insert _ _ _ => obtain ⟨_, -, rfl⟩ := makes; trivial
    | search _ _ _ | list _ _ => obtain ⟨_, rfl⟩ := makes; trivial
    | update id _ =>
      obtain ⟨_, rfl⟩ := makes
      exact fun here => satisfies_withId_of_ne (spares here)
    | delete id =>
      obtain rfl := makes
      exact fun here => satisfies_withId_of_ne (spares here)
    | sweep now =>
      rcases makes with rfl | rfl
      · trivial
      · refine ⟨fun d => ⟨_, Sweep.satisfies_expired now d⟩, fun here => ?_⟩
        rw [Sweep.satisfies_expired, spares here]
    | _ => cases makes; trivial
  · cases o with
    | deleteCollection dropped => exact drops ▸ spares
    | reset => exact drops ▸ spares
    | _ => cases drops
  · trivial
  · trivial

end Operation

/-- A store, and what each adapter on it remembers about its indexes. -/
structure Fleet where
  store : Database
  verdicts : Nat → NameMap IndexStatus

namespace Fleet

def start : Fleet := ⟨.empty, fun _ => .empty⟩

/-- The world as one of the adapters sees it. -/
def world (f : Fleet) (n : Nat) : World Database := ⟨f.store, f.verdicts n⟩

def put (f : Fleet) (n : Nat) (w : World Database) : Fleet where
  store := w.store
  verdicts m := if m = n then w.verdicts else f.verdicts m

/-- Operations of several adapters, one after another. -/
def run (adapters : Nat → VectorStore) : List (Nat × Operation) → Fleet → Fleet
  | [], f => f
  | (n, o) :: rest, f =>
      run adapters rest (f.put n (Task.run (o.task (adapters n)) (f.world n)).2)

variable {adapters : Nat → VectorStore}

theorem run_append (first later : List (Nat × Operation)) (f : Fleet) :
    run adapters (first ++ later) f = run adapters later (run adapters first f) := by
  induction first generalizing f with
  | nil => rfl
  | cons o rest ih => exact ih _

/-- The store can be reached and has only indexes as descriptors have them. -/
structure Proper (db : Database) : Prop where
  online : db.offline = false
  described : db.Described

theorem proper_start : Proper start.store := ⟨rfl, fun _ _ none => by cases none⟩

theorem proper_task {w : World Database} (proper : Proper w.store) (v : VectorStore)
    (o : Operation) : Proper (Task.run (o.task v) w).2.store := by
  refine o.task_preserves v (I := fun w => Proper w.store) ?_ ?_ ?_ w proper
  · intro c calls w proper
    exact ⟨(Database.perform_offline c w.store).trans proper.online,
      proper.described.perform fun _ asked => Operation.asks_of_calls calls asked⟩
  · exact fun _ _ _ proper _ => proper
  · exact fun _ _ _ proper => proper

theorem proper_run (ops : List (Nat × Operation)) {f : Fleet} (proper : Proper f.store) :
    Proper (run adapters ops f).store := by
  induction ops generalizing f with
  | nil => exact proper
  | cons o rest ih => exact ih (proper_task (w := f.world o.1) proper _ o.2)

theorem stays_task {w : World Database} {v : VectorStore} {collection : String} {r : Record}
    {o : Operation} (spares : o.Spares v collection r)
    (stored : r.toDocument ∈ w.store.documents collection) :
    r.toDocument ∈ (Task.run (o.task v) w).2.store.documents collection := by
  refine o.task_preserves v (I := fun w => r.toDocument ∈ w.store.documents collection) ?_ ?_ ?_
    w stored
  · intro c calls w stored
    exact Database.mem_perform (Operation.spares_of_calls spares calls) stored
  · exact fun _ _ _ stored _ => stored
  · exact fun _ _ _ stored => stored

theorem stands_task {w : World Database} {v : VectorStore} {r : Record} {status : IndexStatus}
    {o : Operation} (spares : o.Spares v v.collection r)
    (standing : w.verdicts.get? v.collection = some status) :
    (Task.run (o.task v) w).2.verdicts.get? v.collection = some status := by
  refine o.task_preserves v (I := fun w => w.verdicts.get? v.collection = some status) ?_ ?_ ?_
    w standing
  · exact fun _ _ _ standing => standing
  · intro name _ w standing absent
    rw [NameMap.get?_insert, if_neg, standing]
    rintro rfl
    cases standing.symm.trans absent
  · intro name drops w standing
    rw [NameMap.get?_erase, if_neg, standing]
    rintro rfl
    cases o with
    | deleteCollection _ => exact spares drops
    | reset => exact spares rfl
    | _ => cases drops

/-- A memory stays where it is, and its adapter goes on remembering the index, as long as all
operations leave the memory alone. -/
theorem stays_run {n : Nat} {r : Record} {status : IndexStatus} {ops : List (Nat × Operation)}
    (spared : ∀ o ∈ ops, o.2.Spares (adapters o.1) (adapters n).collection r) {f : Fleet}
    (stored : r.toDocument ∈ f.store.documents (adapters n).collection)
    (standing : (f.verdicts n).get? (adapters n).collection = some status) :
    r.toDocument ∈ (run adapters ops f).store.documents (adapters n).collection ∧
      ((run adapters ops f).verdicts n).get? (adapters n).collection = some status := by
  induction ops generalizing f with
  | nil => exact ⟨stored, standing⟩
  | cons o rest ih =>
    rw [List.forall_mem_cons] at spared
    refine ih spared.2 (stays_task spared.1 stored) ?_
    by_cases same : n = o.1
    · obtain rfl := same
      simp only [put, if_true]
      exact stands_task spared.1 standing
    · simp only [put, if_neg same]
      exact standing

/-- Whatever several adapters have done on an empty store: a memory that one of them inserts, and
that is left alone from then on, is found by its vector through this adapter exactly if the index of
the collection is of the kind that the adapter remembers and has the dimensions it is configured
for, and the other memories of these dimensions can be read. -/
theorem inserted_found_iff (adapters : Nat → VectorStore) (earlier later : List (Nat × Operation))
    (n : Nat) (ids : List String) (vectors : List Embedding) (payloads : List Payload) (r : Record)
    (count : Nat) (f : Fleet)
    (member : (r.id, r.vector, r.payload) ∈ ids.zip (vectors.zip payloads))
    (finite : ∀ x ∈ r.vector, x.finite = true) (plain : r.payload.metadata = [])
    (inRange : ∀ time, r.payload.expiresAt = some time → -Word.half64 ≤ time ∧ time < Word.half64)
    (inserted : (Task.run ((adapters n).insert ids vectors payloads)
      ((run adapters earlier start).world n)).1 = .ok ())
    (spared : ∀ o ∈ later, o.2.Spares (adapters o.1) (adapters n).collection r)
    (reached : run adapters (earlier ++ (n, .insert ids vectors payloads) :: later) start = f)
    (enough : (f.store.documents (adapters n).collection).length ≤ count)
    (bounded : count < pow2 64) :
    (∃ ms w, Task.run ((adapters n).search r.vector count .empty) (f.world n) = (.ok ms, w) ∧
      ∃ m ∈ ms, m.id = r.id) ↔ (adapters n).Answers (f.world n) := by
  obtain ⟨fits, stored, status, standing⟩ :=
    VectorStore.run_insert_eq_ok (Prod.ext inserted rfl) member
  rw [run_append] at reached
  obtain ⟨stays, stands⟩ := stays_run spared
    (f := (run adapters earlier start).put n (Task.run ((adapters n).insert ids vectors payloads)
      ((run adapters earlier start).world n)).2) stored (by simpa [put] using standing)
  have proper : Proper f.store := reached ▸ proper_run _ (proper_run _ proper_start)
  obtain rfl : run adapters later _ = f := reached
  exact VectorStore.search_finds_iff proper.online stands (fun _ => proper.described.path) stays
    fits finite plain inRange enough bounded

/-- One of two adapters sees to the index, and the other inserts a memory. -/
def oneInserted : Fleet :=
  run (fun _ => ⟨⟨"memories", 1, .diskann, 0, 50⟩⟩) ([(1, .ensureIndex)] ++
    (0, .insert ["a"] [[.ofInt 1]] [.new "t" .fact ⟨some "u", none, none⟩]) ::
      [(1, .delete "b")]) start

theorem one_memory_found :
    (Task.run (VectorStore.insert ⟨⟨"memories", 1, .diskann, 0, 50⟩⟩ ["a"] [[.ofInt 1]]
      [.new "t" .fact ⟨some "u", none, none⟩])
      ((run (fun _ => ⟨⟨"memories", 1, .diskann, 0, 50⟩⟩) [(1, .ensureIndex)] start).world 0)).1 =
        .ok () ∧
      ∃ ms w, Task.run (VectorStore.search ⟨⟨"memories", 1, .diskann, 0, 50⟩⟩ [.ofInt 1] 1 .empty)
        (oneInserted.world 0) = (.ok ms, w) ∧ ∃ m ∈ ms, m.id = "a" := by
  obtain ⟨_, _, inserted⟩ := Task.run_ok_of_isSome
    (t := VectorStore.insert ⟨⟨"memories", 1, .diskann, 0, 50⟩⟩ ["a"] [[.ofInt 1]]
      [.new "t" .fact ⟨some "u", none, none⟩])
    (w := (run (fun _ => ⟨⟨"memories", 1, .diskann, 0, 50⟩⟩) [(1, .ensureIndex)] start).world 0)
    (by decide +kernel)
  replace inserted := congrArg Prod.fst inserted
  have read : ∀ d ∈ oneInserted.store.documents "memories",
      (StoredMemory.ofDocument none d).toOption.isSome = true := by decide +kernel
  refine ⟨inserted, (inserted_found_iff (fun _ => ⟨⟨"memories", 1, .diskann, 0, 50⟩⟩)
    [(1, .ensureIndex)] [(1, .delete "b")] 0 ["a"] [[.ofInt 1]]
    [.new "t" .fact ⟨some "u", none, none⟩] ⟨"a", [.ofInt 1], .new "t" .fact ⟨some "u", none, none⟩⟩
    1 oneInserted ?_ ?_ rfl ?_ inserted ?_ rfl ?_ (by decide)).mpr ⟨?_, ?_⟩⟩
  · exact List.mem_singleton_self _
  · decide +kernel
  · exact fun _ none => by cases none
  · intro o member
    obtain rfl := List.mem_singleton.mp member
    exact fun _ => by decide
  · decide +kernel
  · exact ⟨⟨.diskann, .matched, .diskann, some 1⟩, ⟨"embedding", .diskann, 1, .cosine⟩,
      by decide +kernel, by decide +kernel, rfl, rfl⟩
  · intro d member _ _ _
    have passed := read d member
    cases value : StoredMemory.ofDocument none d with
    | error cause =>
      rw [value] at passed
      cases passed
    | ok m => exact ⟨m, rfl⟩

/-- The collection has been made with other dimensions than the adapter is configured for, so the
memory goes in and no search through the adapter goes through. -/
theorem inserted_beyond_search :
    (Task.run (VectorStore.insert ⟨⟨"memories", 3, .diskann, 0, 50⟩⟩ ["a"]
      [[.ofInt 1, .ofInt 0, .ofInt 0]] [.new "t" .fact ⟨some "u", none, none⟩])
      ((run (fun _ => ⟨⟨"memories", 3, .diskann, 0, 50⟩⟩) [(0, .createCollection "memories" 5)]
        start).world 0)).1.toOption = some () ∧
      (Task.run (VectorStore.search ⟨⟨"memories", 3, .diskann, 0, 50⟩⟩
        [.ofInt 1, .ofInt 0, .ofInt 0] 1 .empty)
        ((run (fun _ => ⟨⟨"memories", 3, .diskann, 0, 50⟩⟩) [(0, .createCollection "memories" 5),
          (0, .insert ["a"] [[.ofInt 1, .ofInt 0, .ofInt 0]]
            [.new "t" .fact ⟨some "u", none, none⟩])] start).world 0)).1.toOption.isNone =
        true := by
  decide +kernel

end Fleet

end MemoryBank
