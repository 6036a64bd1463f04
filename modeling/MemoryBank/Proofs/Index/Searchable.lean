import MemoryBank.Proofs.Index.Ensuring
import MemoryBank.Proofs.Store.Finding

set_option autoImplicit false

/-!
Whether a search in the dialect of an adapter's verdict is accepted. However the catalogue has come
about, the verdict tells the kind and the dimensions of the index that the adapter takes; the search
is accepted exactly if the store takes an index on the vectors of memories.
-/

namespace MemoryBank

/-- A call that leaves the collection where it is and, if it is a command, is well-formed. -/
structure Call.Fair (name : String) (c : Call) : Prop where
  kept : c.drops name = false
  wellFormed : ∀ command, c = .command command → Object.WellFormed command

theorem Call.Fair.proper {name : String} {c : Call} (fair : c.Fair name) {spec : Document}
    (asked : c.Asks spec) : IndexSpec.Proper spec := by
  obtain ⟨command, -, -, rfl, -⟩ := id asked
  obtain ⟨values, given, listed, valid⟩ := asked.listed
  have entries := Object.wellFormed_of_get? (fair.wellFormed command rfl).2 given
  have specEntries := Json.wellFormed_of_mem entries listed
  exact ⟨valid, fun key keyed => (Object.wellFormed_of_get? specEntries.2 keyed).1⟩

/-- The verdict tells of the index that an adapter takes from this catalogue. -/
def IndexStatus.TellsOf (status : IndexStatus) (catalogue : List Document) : Prop :=
  ∃ spec index, Catalogue.chosen? catalogue = some spec ∧
    IndexSpec.vectorIndex? spec = some index ∧ status.effective = index.kind ∧
      ∀ n, status.dimensions = some n → n = index.dimensions

theorem IndexStatus.TellsOf.append {status : IndexStatus} {catalogue : List Document}
    (tells : status.TellsOf catalogue) (added : List Document) :
    status.TellsOf (catalogue ++ added) := by
  obtain ⟨spec, index, chosen, read, shown⟩ := tells
  exact ⟨spec, index, Catalogue.chosen?_append chosen added, read, shown⟩

theorem IndexStatus.tellsOf_judge {catalogue : List Document}
    (proper : ∀ spec ∈ catalogue, IndexSpec.Proper spec) {observed : ObservedIndex}
    (seen : (Catalogue.chosen? catalogue).bind
      (fun spec => ObservedIndex.ofSpec? (.object spec)) = some observed)
    (configured : IndexKind) : (IndexStatus.judge configured observed).TellsOf catalogue := by
  obtain ⟨spec, chosen, seen⟩ := Option.bind_eq_some_iff.mp seen
  have marked : IndexSpec.onVectors spec = true := List.find?_some chosen
  have valid := (proper spec (List.mem_of_find?_eq_some chosen)).valid
  obtain ⟨path, entry⟩ := IndexSpec.exists_vectorPath? marked
  obtain ⟨index, read⟩ := IndexSpec.exists_vectorIndex? valid entry
  obtain ⟨_, shown, kind, dimensions⟩ := ObservedIndex.ofSpec?_eq marked read
  obtain rfl := Option.some.inj (seen.symm.trans shown)
  have same : (judge configured observed).dimensions = observed.dimensions := by
    unfold judge
    simp only
    split <;> rfl
  exact ⟨spec, index, chosen, read, effective_judge kind configured, fun n known =>
    dimensions n (same.symm.trans known)⟩

theorem IndexDescriptor.dimensions_spec (d : IndexDescriptor) :
    IndexSpec.field? (d.spec.get? vectorOptionsKey) "dimensions" = some (.ofNat d.dimensions) := by
  obtain ⟨name, dimensions, metric, params⟩ := d
  cases params <;> rfl

/-- A descriptor that passes as a spec is read as it is written. -/
theorem IndexDescriptor.vectorIndex?_spec {d : IndexDescriptor}
    (valid : IndexSpec.validate d.spec = .ok ()) : ∃ index, IndexSpec.vectorIndex? d.spec =
      some index ∧ index.kind = d.kind ∧ index.dimensions = d.dimensions := by
  obtain ⟨index, read⟩ := IndexSpec.exists_vectorIndex? valid
    (show IndexSpec.vectorPath? d.spec = some vectorPath from rfl)
  obtain ⟨-, kind, dimensions, -⟩ := IndexSpec.vectorIndex?_eq_some.mp read
  have named : IndexSpec.field? (d.spec.get? vectorOptionsKey) "kind" =
      some (.string d.kind.storeName) := rfl
  refine ⟨index, read, ?_, ?_⟩
  · rw [named, Option.bind_some, Json.string?, Option.bind_some,
      IndexKind.ofStoreName?_storeName] at kind
    exact (Option.some.inj kind).symm
  · rw [d.dimensions_spec, Option.bind_some] at dimensions
    exact (Json.nat?_ofNat.mp dimensions).2

theorem IndexStatus.tellsOf_created {catalogue grown : List Document}
    (proper : ∀ spec ∈ catalogue, IndexSpec.Proper spec)
    (none : Catalogue.chosen? catalogue = none) {d : IndexDescriptor}
    (valid : IndexSpec.validate d.spec = .ok ())
    (added : Catalogue.add catalogue d.spec = .ok grown) :
    (IndexStatus.created d).TellsOf grown := by
  rcases Catalogue.add_eq_ok added with ⟨-, existing, member, same⟩ | rfl
  · -- an index that is the same would have been seen
    have described := IndexSpec.describes_of_same (proper existing member).valid same
    exact absurd described.marked (List.find?_eq_none.mp none existing member)
  · obtain ⟨index, read, kind, dimensions⟩ := IndexDescriptor.vectorIndex?_spec valid
    refine ⟨d.spec, index, ?_, read, kind.symm, fun n known => ?_⟩
    · rw [Catalogue.chosen?, List.find?_append, ← Catalogue.chosen?, none]
      rfl
    · exact (Option.some.inj known).symm.trans dimensions.symm

theorem IndexDescriptor.proper_of_asks {d : IndexDescriptor} {name : String} {spec : Document}
    (asked : (Call.command (d.createCommand name)).Asks spec) : IndexSpec.Proper spec := by
  have valid := asked.validate
  obtain ⟨_, _, specs, same, requested, member⟩ := asked
  obtain rfl := Call.command.inj same
  obtain ⟨-, rfl⟩ := Database.requestedSpecs_create requested
  obtain rfl := List.mem_singleton.mp member
  refine ⟨valid, fun key keyed => ?_⟩
  obtain rfl : [(vectorPath, .string vectorMark)] = key := Json.object.inj (Option.some.inj keyed)
  exact List.pairwise_singleton _ _

namespace VectorStore

variable {v : VectorStore} {w : World Database}

/-- All indexes of the collection are proper, and a verdict tells of the one the adapter takes. -/
structure Attuned (v : VectorStore) (w : World Database) : Prop where
  online : w.store.offline = false
  proper : ∀ spec ∈ w.store.indexes v.collection, IndexSpec.Proper spec
  tells : ∀ status, w.verdicts.get? v.collection = some status →
    status.TellsOf (w.store.indexes v.collection)

theorem Attuned.perform (attuned : v.Attuned w) {c : Call} (kept : c.drops v.collection = false)
    (asks : ∀ spec, c.Asks spec → IndexSpec.Proper spec) :
    v.Attuned { w with store := (DocumentStore.perform c w.store).2 } := by
  obtain ⟨added, grown, asked⟩ := Database.grown_perform c w.store kept
  refine ⟨(Database.perform_offline c w.store).trans attuned.online, ?_, fun status stands => ?_⟩
  · simp only [grown, List.forall_mem_append]
    exact ⟨attuned.proper, fun spec member => asks spec (asked spec member)⟩
  · simp only [grown]
    exact (attuned.tells status stands).append added

theorem Attuned.remember (attuned : v.Attuned w) {status : IndexStatus}
    (tells : status.TellsOf (w.store.indexes v.collection)) :
    v.Attuned (Task.run (Task.remember v.collection status) w).2 := by
  rw [Task.run_remember]
  cases w.verdicts.get? v.collection with
  | some standing => exact attuned
  | none =>
    refine ⟨attuned.online, attuned.proper, fun other stands => ?_⟩
    rw [NameMap.get?_insert, if_pos rfl] at stands
    exact Option.some.inj stands ▸ tells

theorem Attuned.create (attuned : v.Attuned w) (d : IndexDescriptor)
    (unmarked : Catalogue.chosen? (w.store.indexes v.collection) = none) :
    v.Attuned (Task.run (do
      let status ← Upkeep.settle v.collection d none
      Task.remember v.collection status) w).2 := by
  have made := attuned.perform (c := .command (d.createCommand v.collection)) rfl
    fun _ asked => IndexDescriptor.proper_of_asks asked
  simp only [Upkeep.settle, Task.run_bind]
  cases created : Task.run (Task.call (.command (d.createCommand v.collection))) w with
  | mk r w' =>
    obtain rfl : _ = w' := congrArg Prod.snd created
    cases r with
    | error cause => exact made
    | ok reply =>
      obtain ⟨valid, added⟩ := Database.add_of_created (Task.run_call_eq_ok created).1
      exact made.remember (IndexStatus.tellsOf_created attuned.proper unmarked valid added)

theorem Attuned.ensureIndex (attuned : v.Attuned w) : v.Attuned (Task.run v.ensureIndex w).2 := by
  cases standing : w.verdicts.get? v.collection with
  | some status =>
    rw [VectorStore.ensureIndex, run_ensure_of_standing standing]
    exact attuned
  | none =>
    have looked : v.Attuned (World.mk (Database.arrive
        (.command (Document.command listIndexesCommand v.collection)) w.store) w.verdicts) :=
      ⟨attuned.online, attuned.proper, attuned.tells⟩
    rw [VectorStore.ensureIndex, Upkeep.run_ensure_of_none standing, Task.run_bind,
      Upkeep.run_inspect_online attuned.online]
    cases v.collection.isEmpty with
    | true => exact looked
    | false =>
      simp only [Bool.false_eq_true, if_false]
      cases seen : w.store.reported v.collection with
      | some observed =>
        rw [Database.reported_eq] at seen
        exact looked.remember (IndexStatus.tellsOf_judge attuned.proper seen _)
      | none => exact looked.create _ (Database.chosen?_of_reported seen)

end VectorStore

/-- What may happen to the collection of an adapter before it searches. -/
inductive Stir
  -- Anyone calls the store.
  | call (c : Call)
  -- The adapter sees to its index.
  | ensure

namespace Stir

def Fair (name : String) : Stir → Prop
  | call c => c.Fair name
  | ensure => True

def stirred (v : VectorStore) : Stir → World Database → World Database
  | call c, w => { w with store := (DocumentStore.perform c w.store).2 }
  | ensure, w => (Task.run v.ensureIndex w).2

end Stir

namespace VectorStore

def stirred (v : VectorStore) (stirs : List Stir) (w : World Database) : World Database :=
  stirs.foldl (fun w s => s.stirred v w) w

theorem Attuned.stirred {v : VectorStore} {stirs : List Stir}
    (fair : ∀ s ∈ stirs, s.Fair v.collection) {w : World Database} (attuned : v.Attuned w) :
    v.Attuned (v.stirred stirs w) := by
  induction stirs generalizing w with
  | nil => exact attuned
  | cons s rest ih =>
    rw [List.forall_mem_cons] at fair
    refine ih fair.2 ?_
    cases s with
    | call c => exact attuned.perform fair.1.kept fun _ asked => fair.1.proper asked
    | ensure => exact attuned.ensureIndex

/-- However the catalogue has come about and whenever the adapter has looked at it: a search for the
kind of its verdict, with a vector of the configured length, is accepted exactly if the first vector
index of the catalogue, which is the one a search takes, is on the vectors of memories. -/
theorem search_accepted_iff (v : VectorStore) {w : World Database}
    (online : w.store.offline = false) (bare : w.store.indexes v.collection = [])
    (fresh : w.verdicts.get? v.collection = none) (stirs : List Stir)
    (fair : ∀ s ∈ stirs, s.Fair v.collection) {status : IndexStatus} {w' : World Database}
    (ensured : Task.run v.ensureIndex (v.stirred stirs w) = (.ok status, w'))
    (sized : status.dimensions = some v.settings.dimensions) {vector : Embedding}
    (finite : ∀ x ∈ vector, x.finite = true) (fits : vector.length = v.settings.dimensions)
    {count : Nat} (positive : 0 < count) (bounded : count < pow2 64) :
    (∃ rows w'', Task.run (Task.call (.aggregate v.collection
        (SimilarityQuery.pipeline status.effective vector count none))) w' = (.ok rows, w'')) ↔
      (Catalogue.searched? (w'.store.indexes v.collection)).map (·.path) = some vectorPath := by
  have start : v.Attuned w := by
    refine ⟨online, fun spec none => ?_, fun status none => ?_⟩
    · rw [bare] at none
      cases none
    · rw [fresh] at none
      cases none
  have attuned := (start.stirred fair).ensureIndex
  rw [ensured] at attuned
  obtain ⟨spec, index, chosen, read, kind, dimensions⟩ :=
    attuned.tells status (Upkeep.verdict_of_ensure ensured)
  obtain ⟨taken, searched, same⟩ := Catalogue.searched?_eq_some attuned.proper chosen
  have ran := run_aggregate attuned.online v.collection
    (SimilarityQuery.pipeline status.effective vector count none)
  rw [Pipeline.run_similarity] at ran
  constructor
  · rintro ⟨rows, w'', called⟩
    rw [called] at ran
    obtain ⟨found, passed, -⟩ := Fallible.bind_eq_ok.mp (congrArg Prod.fst ran).symm
    obtain ⟨index', query, known, -, -, -, path, -⟩ := Search.run_eq_ok_iff.mp passed
    exact Option.map_eq_some_iff.mpr ⟨index', known, path⟩
  · intro onVectors
    obtain ⟨index', known, path⟩ := Option.map_eq_some_iff.mp onVectors
    obtain rfl := Option.some.inj (searched.symm.trans known)
    obtain rfl := Option.some.inj (read.symm.trans (same path))
    obtain ⟨query, embedded, length⟩ := Embedding.exists_ofJson finite
    have passed := Search.run_eq_ok_iff.mpr ⟨index, query, known, kind.symm, embedded,
      (length.trans fits).trans (dimensions _ sized), path, positive, bounded, rfl⟩
    rw [passed] at ran
    exact ⟨_, _, ran⟩

/-- The command that makes vector indexes on these paths, in this order. -/
def indexing (paths : List String) : Document :=
  Document.command createIndexesCommand "memories" ++ [("indexes", .array <| paths.map fun path =>
    .object ((IndexDescriptor.forCollection path .diskann 1).spec.insert "key"
      (.object [(path, .string vectorMark)])))]

theorem wellFormed_indexing_title : Object.WellFormed (indexing ["title"]) := by
  simp [Object.WellFormed, Json.WellFormed, Json.WellFormedEntries, Json.WellFormedList,
    Number.Valid, Number.inRange, Word.half64, Word.bound64, Json.ofNat, indexing,
    Document.command, createIndexesCommand, vectorOptionsKey, Object.insert, IndexDescriptor.spec,
    IndexDescriptor.buildOptions, IndexDescriptor.forCollection, IndexKind.defaultParams]

theorem search_accepted_beside_other_path :
    (Task.run (ensureIndex ⟨⟨"memories", 1, .diskann, 0, 50⟩⟩)
        (stirred ⟨⟨"memories", 1, .diskann, 0, 50⟩⟩
          [.ensure, .call (.command (indexing ["title"]))] ⟨.empty, .empty⟩)).1.toOption =
        some ⟨.diskann, .created, .diskann, some 1⟩ ∧
      ∃ rows w'', Task.run (Task.call (.aggregate "memories"
        (SimilarityQuery.pipeline .diskann [.ofInt 1] 1 none)))
        (Task.run (ensureIndex ⟨⟨"memories", 1, .diskann, 0, 50⟩⟩)
          (stirred ⟨⟨"memories", 1, .diskann, 0, 50⟩⟩
            [.ensure, .call (.command (indexing ["title"]))] ⟨.empty, .empty⟩)).2 =
          (.ok rows, w'') := by
  have passed : (Task.run (ensureIndex ⟨⟨"memories", 1, .diskann, 0, 50⟩⟩)
      (stirred ⟨⟨"memories", 1, .diskann, 0, 50⟩⟩
        [.ensure, .call (.command (indexing ["title"]))] ⟨.empty, .empty⟩)).1.toOption =
      some ⟨.diskann, .created, .diskann, some 1⟩ := by decide +kernel
  refine ⟨passed, ?_⟩
  obtain ⟨status, w', ensured, rfl⟩ := Task.run_ok_of_map (f := id) (by simpa using passed)
  rw [ensured]
  refine (search_accepted_iff ⟨⟨"memories", 1, .diskann, 0, 50⟩⟩ (w := ⟨.empty, .empty⟩) rfl rfl rfl
    [.ensure, .call (.command (indexing ["title"]))] ?_ ensured rfl ?_ rfl (by decide)
    (by decide)).mpr ?_
  · rw [List.forall_mem_cons, List.forall_mem_singleton]
    refine ⟨trivial, rfl, ?_⟩
    rintro command same
    obtain rfl := Call.command.inj same
    exact wellFormed_indexing_title
  · decide +kernel
  · obtain rfl := congrArg Prod.snd ensured
    decide +kernel

/-- The adapter takes the second index, which matches its configuration, and the store the first. -/
theorem search_refused_behind_other_path :
    (Task.run (ensureIndex ⟨⟨"memories", 1, .diskann, 0, 50⟩⟩)
        (stirred ⟨⟨"memories", 1, .diskann, 0, 50⟩⟩
          [.call (.command (indexing ["title", "embedding"]))] ⟨.empty, .empty⟩)).1.toOption =
        some ⟨.diskann, .matched, .diskann, some 1⟩ ∧
      (Task.run (Task.call (.aggregate "memories"
        (SimilarityQuery.pipeline .diskann [.ofInt 1] 1 none)))
        (Task.run (ensureIndex ⟨⟨"memories", 1, .diskann, 0, 50⟩⟩)
          (stirred ⟨⟨"memories", 1, .diskann, 0, 50⟩⟩
            [.call (.command (indexing ["title", "embedding"]))] ⟨.empty, .empty⟩)).2).1.toOption =
        none := by
  decide +kernel

end VectorStore

end MemoryBank
