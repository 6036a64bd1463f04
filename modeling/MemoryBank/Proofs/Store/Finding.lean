import MemoryBank.Proofs.Memory.Codec
import MemoryBank.Proofs.Number.Singles
import MemoryBank.Proofs.Store.Catalogues
import MemoryBank.Proofs.Store.Searching

set_option autoImplicit false

/-!
When a search with the vector of a stored memory finds that memory: what has to be right about the
index that is searched, and about the other memories that are found.
-/

namespace MemoryBank

theorem Embedding.exists_ofJson {vector : Embedding} (finite : ∀ x ∈ vector, x.finite = true) :
    ∃ read, ofJson? vector.toJson = some read ∧ read.length = vector.length := by
  change ∃ read, (vector.map Json.ofSingle).mapM
    (fun v : Json => v.float?.map Single.ofFloat) = some read ∧ _
  induction vector with
  | nil => exact ⟨[], rfl, rfl⟩
  | cons x rest ih =>
    rw [List.forall_mem_cons] at finite
    obtain ⟨read, behind, length⟩ := ih finite.2
    refine ⟨Single.ofFloat x.toFloat :: read, ?_, congrArg (· + 1) length⟩
    rw [List.map_cons, List.mapM_cons, Json.float?_ofSingle finite.1, behind]
    rfl

/-- Whether a document can be read has nothing to do with its score. -/
theorem StoredMemory.exists_ofDocument {d : Document} {score : Option Single} {m : StoredMemory}
    (read : ofDocument score d = .ok m) (other : Option Single) :
    ofDocument other d = .ok { m with score := other } := by
  obtain ⟨o, lies, decoded, named, -⟩ := ofDocument_eq_ok_iff.mp read
  exact ofDocument_eq_ok_iff.mpr ⟨o, lies, decoded, named, rfl⟩

theorem Record.ofDocument_toDocument {r : Record} (plain : r.payload.metadata = [])
    (inRange : ∀ time, r.payload.expiresAt = some time →
      -Word.half64 ≤ time ∧ time < Word.half64) (score : Option Single) :
    StoredMemory.ofDocument score r.toDocument = .ok ⟨r.id, score, r.payload⟩ := by
  have storable : r.payload.Storable := by
    refine ⟨inRange, ?_, ?_⟩ <;> rw [plain]
    · exact .nil
    · exact fun _ none => by cases none
  have back : Payload.ofDocument r.payload.toDocument = .ok r.payload := by
    refine storable.ofDocument_eq_ok.mpr (Payload.readBack_of_not_mem ?_)
    rw [plain]
    exact List.not_mem_nil
  rw [VectorStore.ofDocument_toDocument, back]
  rfl

namespace VectorStore

theorem run_ensure_of_standing {σ : Type} [DocumentStore σ] {w : World σ} {name : String}
    {status : IndexStatus} (standing : w.verdicts.get? name = some status) (d : IndexDescriptor) :
    Task.run (Upkeep.ensure name d) w = (.ok status, w) := by
  unfold Upkeep.ensure
  rw [Task.run_bind, Task.run_verdict, standing]
  rfl

theorem run_aggregate {w : World Database} (online : w.store.offline = false) (name : String)
    (pipeline : List Document) :
    Task.run (Task.call (.aggregate name pipeline)) w =
      (Pipeline.run (w.store.opened name) pipeline,
        { w with store := Database.arrive (.aggregate name pipeline) w.store }) := by
  rw [Task.run_call, Database.perform_of_online online]
  rfl

/-- What a search in a collection finds where nothing is filtered. -/
def plainHits (c : Collection) (kind : IndexKind) (vector : Embedding) (count : Nat) :
    Result (List StoredMemory) := do
  let rows ← Search.run c (SimilarityQuery.stage kind vector count)
  hits kind count (rows.map fun row => (SimilarityQuery.hit kind row).document)

/-- A search on a collection whose index has been seen to before. -/
theorem run_search_of_standing {v : VectorStore} {w : World Database} {status : IndexStatus}
    (online : w.store.offline = false)
    (standing : w.verdicts.get? v.collection = some status) {vector : Embedding} {count : Nat}
    (positive : 0 < count) (fits : vector.length = v.settings.dimensions) :
    (Task.run (v.search vector count .empty) w).1 =
      plainHits (w.store.opened v.collection) status.effective vector count := by
  have checked : v.checkVector vector = .ok () := by
    rw [checkVector, if_neg (not_not_intro fits)]
  have unfiltered : Filters.predicate? .empty searchedPayloadPath = .ok none := rfl
  have ensured : Task.run v.ensureIndex w = (.ok status, w) :=
    run_ensure_of_standing standing _
  have found := Pipeline.run_similarity (w.store.opened v.collection) status.effective vector count
    none
  unfold search
  rw [if_neg (Nat.ne_of_gt positive), checked, unfiltered]
  simp only [Task.run_bind, Task.run_ofResult, ensured]
  rw [run_aggregate online, found, plainHits]
  cases Search.run (w.store.opened v.collection)
      (SimilarityQuery.stage status.effective vector count) with
  | error cause => rfl
  | ok rows =>
    simp only [Fallible.ok_bind, Pipeline.filtered, List.map_map]
    rfl

theorem ofRow_of_hits {kind : IndexKind} {count : Nat} {rows : List Document}
    {ms : List StoredMemory} (read : hits kind count rows = .ok ms) {out : Document}
    (member : out ∈ rows) : ∃ m, StoredMemory.ofRow kind out = .ok m := by
  obtain ⟨found, mapped, -⟩ := Fallible.bind_eq_ok.mp read
  obtain ⟨m, -, value⟩ := Fallible.exists_mem_of_mapM mapped member
  exact ⟨m, value⟩

theorem hits_of_ofRow {kind : IndexKind} {count : Nat} {rows : List Document}
    (fits : rows.length ≤ count) (read : ∀ out ∈ rows, ∃ m, StoredMemory.ofRow kind out = .ok m) :
    ∃ ms, hits kind count rows = .ok ms ∧
      ∀ out ∈ rows, ∃ m ∈ ms, StoredMemory.ofRow kind out = .ok m := by
  obtain ⟨found, mapped⟩ := Fallible.exists_mapM_eq_ok read
  have whole : (stableSort StoredMemory.before found).length ≤ count := by
    rw [(stableSort_perm _ _).length_eq, Fallible.length_of_mapM mapped]
    exact fits
  refine ⟨(stableSort StoredMemory.before found).take count, ?_, fun out member => ?_⟩
  · rw [hits, mapped]
    rfl
  · obtain ⟨m, among, value⟩ := Fallible.exists_mem_of_mapM mapped member
    rw [List.take_of_length_le whole]
    exact ⟨m, (stableSort_perm _ _).mem_iff.mpr among, value⟩

/-- What a search through an adapter needs: an index of the remembered kind and the configured
dimensions, and memories that can be read wherever the vector is of these dimensions. -/
structure Answers (v : VectorStore) (w : World Database) : Prop where
  indexed : ∃ status index, w.verdicts.get? v.collection = some status ∧
    Catalogue.searched? (w.store.indexes v.collection) = some index ∧
      index.kind = status.effective ∧ index.dimensions = v.settings.dimensions
  readable : ∀ d ∈ w.store.documents v.collection, ∀ stored : Embedding,
    (d.get? vectorPath).bind Embedding.ofJson? = some stored →
      stored.length = v.settings.dimensions → ∃ m, StoredMemory.ofDocument none d = .ok m

section

variable {v : VectorStore} {w : World Database} {status : IndexStatus} {vector query : Embedding}
  {count : Nat} {ms : List StoredMemory}

theorem answers_of_hits (standing : w.verdicts.get? v.collection = some status)
    (read : Embedding.ofJson? vector.toJson = some query)
    (fits : query.length = v.settings.dimensions)
    (enough : (w.store.documents v.collection).length ≤ count)
    (found : plainHits (w.store.opened v.collection) status.effective vector count = .ok ms) :
    v.Answers w := by
  obtain ⟨rows, searched, shown⟩ := Fallible.bind_eq_ok.mp found
  obtain ⟨index, query', known, kind, read', same, path, -, -, rfl⟩ :=
    Search.run_eq_ok_iff.mp searched
  obtain rfl : query = query' := Option.some.inj (read.symm.trans read')
  refine ⟨⟨status, index, standing, known, kind, same.symm.trans fits⟩, ?_⟩
  -- such a memory is among the rows found, and one row that cannot be read fails the search
  intro d among other embedded dimensions
  have found : (⟨d, some (Similarity.score index.metric query other)⟩ : Row) ∈
      Search.found (w.store.opened v.collection) index query count :=
    (Search.mem_found_iff enough).mpr
      ⟨d, among, other, path ▸ embedded, by rw [dimensions, fits], rfl⟩
  obtain ⟨m, value⟩ := ofRow_of_hits shown (List.mem_map_of_mem found)
  rw [StoredMemory.ofRow_hit] at value
  exact ⟨_, StoredMemory.exists_ofDocument value none⟩

/-- The search then shows every memory whose vector has the configured dimensions. -/
theorem hits_of_answers (answers : v.Answers w)
    (standing : w.verdicts.get? v.collection = some status)
    (keyed : ∀ index, Catalogue.searched? (w.store.indexes v.collection) = some index →
      index.path = vectorPath)
    (read : Embedding.ofJson? vector.toJson = some query)
    (fits : query.length = v.settings.dimensions) (positive : 0 < count)
    (enough : (w.store.documents v.collection).length ≤ count) (bounded : count < pow2 64) :
    ∃ ms, plainHits (w.store.opened v.collection) status.effective vector count = .ok ms ∧
      ∀ d ∈ w.store.documents v.collection, ∀ stored : Embedding,
        (d.get? vectorPath).bind Embedding.ofJson? = some stored →
          stored.length = v.settings.dimensions →
            ∃ m ∈ ms, ∃ score, StoredMemory.ofDocument score d = .ok m := by
  obtain ⟨⟨status', index, standing', known, kind, dimensions⟩, readable⟩ := answers
  obtain rfl : status = status' := Option.some.inj (standing.symm.trans standing')
  have path := keyed index known
  have searched := Search.run_eq_ok_iff.mpr ⟨index, query, known, kind, read,
    fits.trans dimensions.symm, path, positive, bounded, rfl⟩
  have readRows : ∀ out ∈ (Search.found (w.store.opened v.collection) index query count).map
      (fun row => (SimilarityQuery.hit status.effective row).document),
      ∃ m, StoredMemory.ofRow status.effective out = .ok m := by
    intro out member
    obtain ⟨row, found, rfl⟩ := List.mem_map.mp member
    obtain ⟨d, among, other, embedded, same, rfl⟩ := (Search.mem_found_iff enough).mp found
    obtain ⟨m, value⟩ := readable d among other (path ▸ embedded) (same.trans fits)
    rw [StoredMemory.ofRow_hit]
    exact ⟨_, StoredMemory.exists_ofDocument value _⟩
  have within : ((Search.found (w.store.opened v.collection) index query count).map
      (fun row => (SimilarityQuery.hit status.effective row).document)).length ≤ count := by
    rw [List.length_map]
    exact List.length_take_le ..
  obtain ⟨ms, shown, each⟩ := hits_of_ofRow within readRows
  refine ⟨ms, by rw [plainHits, searched, Fallible.ok_bind, shown], ?_⟩
  intro d among stored embedded same
  have found : (⟨d, some (Similarity.score index.metric query stored)⟩ : Row) ∈
      Search.found (w.store.opened v.collection) index query count :=
    (Search.mem_found_iff enough).mpr
      ⟨d, among, stored, path ▸ embedded, same.trans fits.symm, rfl⟩
  obtain ⟨m, member, value⟩ := each _ (List.mem_map_of_mem found)
  rw [StoredMemory.ofRow_hit] at value
  exact ⟨m, member, _, value⟩

end

theorem search_finds_iff {v : VectorStore} {w : World Database} {status : IndexStatus}
    (online : w.store.offline = false)
    (standing : w.verdicts.get? v.collection = some status)
    (keyed : ∀ index, Catalogue.searched? (w.store.indexes v.collection) = some index →
      index.path = vectorPath)
    {r : Record} (stored : r.toDocument ∈ w.store.documents v.collection)
    (fits : r.vector.length = v.settings.dimensions) (finite : ∀ x ∈ r.vector, x.finite = true)
    (plain : r.payload.metadata = [])
    (inRange : ∀ time, r.payload.expiresAt = some time →
      -Word.half64 ≤ time ∧ time < Word.half64)
    {count : Nat} (enough : (w.store.documents v.collection).length ≤ count)
    (bounded : count < pow2 64) :
    (∃ ms w', Task.run (v.search r.vector count .empty) w = (.ok ms, w') ∧ ∃ m ∈ ms, m.id = r.id) ↔
      v.Answers w := by
  have positive : 0 < count := Nat.lt_of_lt_of_le (List.length_pos_of_mem stored) enough
  obtain ⟨query, read, length⟩ := Embedding.exists_ofJson finite
  have dimensions : query.length = v.settings.dimensions := length.trans fits
  have ran := run_search_of_standing online standing positive fits
  constructor
  · rintro ⟨ms, w', searched, -⟩
    rw [searched] at ran
    exact answers_of_hits standing read dimensions enough ran.symm
  · intro answers
    obtain ⟨ms, found, shows⟩ :=
      hits_of_answers answers standing keyed read dimensions positive enough bounded
    obtain ⟨m, member, score, value⟩ := shows _ stored query read dimensions
    rw [Record.ofDocument_toDocument plain inRange] at value
    exact ⟨ms, _, Prod.ext (ran.trans found) rfl, m, member, (Except.ok.inj value) ▸ rfl⟩

end VectorStore

end MemoryBank
