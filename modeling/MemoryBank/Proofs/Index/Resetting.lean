import MemoryBank.Proofs.Filter.Conditions
import MemoryBank.Proofs.Index.Standing
import MemoryBank.Proofs.Store.Uniqueness

set_option autoImplicit false

/-!
Resetting the collection of an adapter. Whatever indexes the collection had and whatever the adapter
remembered of them is gone before the collection is made, so it is always made in the same way.
-/

namespace MemoryBank.VectorStore

variable {v : VectorStore} {w : World Database} {name : String} {n : Nat}

/-- Where there is no collection and no verdict, the collection is made with its index. -/
theorem run_createCollection_anew (online : w.store.offline = false)
    (missing : w.store.find? name = none) (unknown : w.verdicts.get? name = none)
    (named : name.isEmpty = false) (positive : 0 < n) (word : n < pow2 32) :
    ∃ log, Task.run (v.createCollection name n) w = (.ok (),
      ⟨Database.put { w.store with log := log } name ⟨[], [(v.descriptor name n).spec]⟩,
        w.verdicts.insert name (.created (v.descriptor name n))⟩) := by
  have bare : w.store.opened name = .empty := by rw [Database.opened, missing]; rfl
  have ready : ∀ indexed, (w.store.reported name).bind (·.dimensions) = some indexed →
      indexed = n := by
    rw [Database.reported, Database.indexes, bare]
    intro indexed seen
    cases seen
  rw [run_createCollection_ready online (Nat.ne_of_gt positive) named ready, Task.run_bind,
    run_call_createCollection (w := w.looked name) online]
  simp only [Task.run_discard]
  have made : (DocumentStore.perform (.createCollection name) (w.looked name).store).2 =
      (Database.arrive (.createCollection name) (w.looked name).store).put name .empty := by
    rw [Database.perform_of_online (show (w.looked name).store.offline = false from online), ← bare]
    rfl
  obtain ⟨log, ensured⟩ := Upkeep.run_ensure_bare
    (w := ⟨(Database.arrive (.createCollection name) (w.looked name).store).put name .empty,
      w.verdicts⟩) online unknown (by rw [Database.indexes_put, if_pos rfl]; rfl)
    (v.descriptor name n)
  refine ⟨log, ?_⟩
  rw [made, World.verdicts_looked, ensured,
    Upkeep.readied_eq_ok.mpr ⟨named, validate_descriptor v name positive word⟩]
  rw [Database.documents_put, if_pos rfl]
  -- the collection is put in twice, first bare and then with the index
  simp only [Database.put, NameMap.insert_insert]
  rfl

theorem run_reset (online : w.store.offline = false) (named : v.collection.isEmpty = false)
    (positive : 0 < v.settings.dimensions) (word : v.settings.dimensions < pow2 32) :
    ∃ log, Task.run v.reset w = (.ok (),
      ⟨Database.put
          { w.store with collections := w.store.collections.erase v.collection, log := log }
          v.collection ⟨[], [(v.descriptor v.collection v.settings.dimensions).spec]⟩,
        (w.verdicts.erase v.collection).insert v.collection
          (.created (v.descriptor v.collection v.settings.dimensions))⟩) := by
  obtain ⟨log, made⟩ := run_createCollection_anew (v := v) (w := ⟨{ Database.arrive
      (.dropCollection v.collection) w.store with
        collections := w.store.collections.erase v.collection }, w.verdicts.erase v.collection⟩)
    online (by simp [Database.find?]) (by simp) named positive word
  refine ⟨log, ?_⟩
  rw [reset, Task.run_bind, run_deleteCollection online]
  exact made

/-- Whatever a collection was like and whatever was known of it: once it is reset it has no
documents and the one index that is configured, which the verdict says was made, and nothing else
has changed. -/
theorem reset_renews {config : Config} {v : VectorStore}
    (configured : VectorStore.ofConfig config = .ok v) (sized : config.embeddingDims < pow2 32)
    (w : World Database) (online : w.store.offline = false) :
    ∃ kind w', IndexKind.ofText config.indexKind = .ok kind ∧
      Task.run v.reset w = (.ok (), w') ∧
      w'.store.find? config.collection = some ⟨[],
        [(IndexDescriptor.forCollection config.collection kind config.embeddingDims).spec]⟩ ∧
      w'.verdicts.get? config.collection =
        some ⟨kind, .created, kind, some config.embeddingDims⟩ ∧
      ∀ other, other ≠ config.collection →
        w'.store.find? other = w.store.find? other ∧
        w'.verdicts.get? other = w.verdicts.get? other := by
  obtain ⟨settings, valid, rfl⟩ := Fallible.map_eq_ok.mp configured
  obtain ⟨kind, collection, named, dimensions, positive⟩ := Config.settings_eq_ok valid
  obtain ⟨log, renewed⟩ := run_reset (v := ⟨settings⟩) online
    (show settings.collection.isEmpty = false from collection ▸ named) (dimensions ▸ positive)
    (dimensions ▸ sized)
  simp only [VectorStore.collection, descriptor, collection, dimensions] at renewed
  refine ⟨settings.indexKind, _, kind, renewed, Database.find?_put_self .., ?_,
    fun other away => ?_⟩
  · rw [NameMap.get?_insert, if_pos rfl, IndexStatus.created, IndexDescriptor.kind_forCollection]
    rfl
  · simp [Database.find?, Database.put, NameMap.get?_insert, NameMap.get?_erase, away]

/-- The collection has a document and an index of another kind and size, of which the verdict
knows nothing, and there is another collection. -/
def stale : World Database where
  store := Database.after [.insert "memories" [[("_id", .string "a")]],
    .command ((IndexDescriptor.forCollection "older" .hnsw 3).createCommand "memories"),
    .insert "others" [[("_id", .string "b")]]]
  verdicts := (NameMap.empty.insert "memories" ⟨.diskann, .mismatch "ivf", .diskann, some 5⟩).insert
    "others" ⟨.diskann, .matched, .diskann, none⟩

theorem reset_renews_stale :
    stale.store.find? "memories" = some ⟨[[("_id", .string "a")]],
        [(IndexDescriptor.forCollection "older" .hnsw 3).spec]⟩ ∧
      ∃ w', Task.run (reset ⟨⟨"memories", 1, .diskann, 0, 50⟩⟩) stale = (.ok (), w') ∧
        w'.store.find? "memories" =
          some ⟨[], [(IndexDescriptor.forCollection "memories" .diskann 1).spec]⟩ ∧
        w'.verdicts.get? "memories" = some ⟨.diskann, .created, .diskann, some 1⟩ ∧
        w'.store.find? "others" = some ⟨[[("_id", .string "b")]], []⟩ ∧
        w'.verdicts.get? "others" = some ⟨.diskann, .matched, .diskann, none⟩ := by
  obtain ⟨kind, w', named, ran, found, known, others⟩ := reset_renews
    (show VectorStore.ofConfig { Config.default with embeddingDims := 1 } =
      .ok ⟨⟨"memories", 1, .diskann, 0, 50⟩⟩ from rfl) (by decide) stale rfl
  obtain rfl : kind = .diskann := Except.ok.inj (named.symm.trans rfl)
  obtain ⟨kept, remembered⟩ := others "others" (by decide)
  exact ⟨rfl, w', ran, found, known, kept.trans rfl, remembered.trans rfl⟩

end MemoryBank.VectorStore
