import MemoryBank.Proofs.Fallible
import MemoryBank.Proofs.Json.Objects
import MemoryBank.Proofs.Store.Adapter
import MemoryBank.VectorStore

set_option autoImplicit false

/-!
Similarity searches: when the vector index answers one, which documents it finds, and what the
stages behind it make of them.
-/

namespace MemoryBank

theorem Json.nat?_ofNat {n m : Nat} : (Json.ofNat n).nat? = some m ↔ n < pow2 64 ∧ m = n := by
  have p64 : pow2 64 = 18446744073709551616 := rfl
  rw [Json.ofNat, Json.nat?, Number.toNat?, Int.toNat_natCast]
  constructor
  · intro read
    split at read
    · next range =>
      simp only [Word.bound64] at range
      exact ⟨by omega, (Option.some.inj read).symm⟩
    · cases read
  · rintro ⟨bounded, rfl⟩
    have range : 0 ≤ (m : Int) ∧ (m : Int) < Word.bound64 := by
      simp only [Word.bound64]
      omega
    rw [if_pos range]

theorem IndexKind.searchOption_injective {a b : IndexKind} (h : a.searchOption = b.searchOption) :
    a = b := by
  cases a <;> cases b <;> first | rfl | exact absurd h (by decide)

namespace SimilarityQuery

def stage (kind : IndexKind) (vector : Embedding) (count : Nat) : Json :=
  .object [(vectorMark, .object (search kind vector count)), ("returnStoredSource", .bool true)]

def projection (kind : IndexKind) : Object :=
  [(kind.scoreField, .object [("$meta", .string "searchScore")]), (documentKey, .string "$$ROOT")]

theorem pipeline_eq (kind : IndexKind) (vector : Embedding) (count : Nat)
    (filter : Option Document) :
    pipeline kind vector count filter =
      [("$search", stage kind vector count)] :: [("$project", .object (projection kind))] ::
        match filter with
        | some filter => [[("$match", .object filter)]]
        | none => [] := rfl

end SimilarityQuery

namespace Search

theorem checkOptions_search (index : VectorIndex) (kind : IndexKind) (vector : Embedding)
    (count : Nat) :
    checkOptions index (SimilarityQuery.search kind vector count) = .ok () ↔ index.kind = kind := by
  have option : checkOptions index (SimilarityQuery.search kind vector count) =
      if kind.searchOption = index.kind.searchOption then .ok ()
      else .error (.store (.foreignSearchOption index.kind kind.searchOption)) := by
    obtain ⟨path, indexed, dimensions, metric⟩ := index
    cases kind <;> cases indexed <;> rfl
  rw [option]
  constructor
  · intro passed
    split at passed
    · next same => exact (IndexKind.searchOption_injective same).symm
    · cases passed
  · rintro rfl
    rw [if_pos rfl]

/-- The rows an index finds. -/
def found (c : Collection) (index : VectorIndex) (query : Embedding) (count : Nat) : List Row :=
  (stableSort (before index.metric) (scored index query c.documents)).take count

theorem searched_eq_ok {c : Collection} {index : VectorIndex} :
    searched c = .ok index ↔ Catalogue.searched? c.indexes = some index := by
  rw [searched]
  cases Catalogue.searched? c.indexes <;> simp

theorem query_eq_ok {index : VectorIndex} {kind : IndexKind} {vector query : Embedding}
    {count : Nat} :
    Search.query index (SimilarityQuery.search kind vector count) = .ok query ↔
      Embedding.ofJson? vector.toJson = some query ∧ query.length = index.dimensions := by
  have entry : Object.get? (SimilarityQuery.search kind vector count) "vector" =
      some vector.toJson := rfl
  rw [Search.query, entry, Option.bind_some]
  cases Embedding.ofJson? vector.toJson with
  | none => simp
  | some read =>
    simp only [Option.some.injEq]
    constructor
    · intro fits
      split at fits
      · next length => exact ⟨Except.ok.inj fits, Except.ok.inj fits ▸ length⟩
      · cases fits
    · rintro ⟨rfl, length⟩
      rw [if_pos length]

theorem checkPath_eq_ok {index : VectorIndex} {kind : IndexKind} {vector : Embedding}
    {count : Nat} :
    checkPath index (SimilarityQuery.search kind vector count) = .ok () ↔
      index.path = vectorPath := by
  have entry : Object.get? (SimilarityQuery.search kind vector count) "path" =
      some (.string vectorPath) := rfl
  rw [checkPath, entry]
  change (if vectorPath = index.path then _ else _) = _ ↔ _
  constructor
  · intro passed
    split at passed
    · next same => exact same.symm
    · cases passed
  · intro same
    rw [if_pos same.symm]

theorem count_eq_ok {kind : IndexKind} {vector : Embedding} {count n : Nat} :
    Search.count (SimilarityQuery.search kind vector count) = .ok n ↔
      0 < count ∧ count < pow2 64 ∧ count = n := by
  have entry : Object.get? (SimilarityQuery.search kind vector count) "k" =
      some (.ofNat count) := rfl
  rw [Search.count, entry, Option.bind_some]
  constructor
  · intro counted
    split at counted
    · next m read =>
      obtain ⟨bounded, rfl⟩ := Json.nat?_ofNat.mp read
      exact ⟨Nat.succ_pos m, bounded, Except.ok.inj counted⟩
    · cases counted
  · rintro ⟨positive, bounded, rfl⟩
    obtain ⟨m, rfl⟩ := Nat.exists_eq_add_one_of_ne_zero (Nat.ne_of_gt positive)
    rw [Json.nat?_ofNat.mpr ⟨bounded, rfl⟩]

theorem run_eq_ok_iff {c : Collection} {kind : IndexKind} {vector : Embedding} {count : Nat}
    {rows : List Row} :
    run c (SimilarityQuery.stage kind vector count) = .ok rows ↔
      ∃ index query, Catalogue.searched? c.indexes = some index ∧ index.kind = kind ∧
        Embedding.ofJson? vector.toJson = some query ∧ query.length = index.dimensions ∧
        index.path = vectorPath ∧ 0 < count ∧ count < pow2 64 ∧
        rows = found c index query count := by
  have asked : request (SimilarityQuery.stage kind vector count) =
      .ok (SimilarityQuery.search kind vector count) := rfl
  rw [run, asked, Fallible.ok_bind]
  constructor
  · intro ran
    obtain ⟨index, known, ran⟩ := Fallible.bind_eq_ok.mp ran
    obtain ⟨_, options, ran⟩ := Fallible.bind_eq_ok.mp ran
    obtain ⟨query, read, ran⟩ := Fallible.bind_eq_ok.mp ran
    obtain ⟨_, path, ran⟩ := Fallible.bind_eq_ok.mp ran
    obtain ⟨n, counted, ran⟩ := Fallible.bind_eq_ok.mp ran
    obtain ⟨positive, bounded, rfl⟩ := count_eq_ok.mp counted
    obtain ⟨vectorRead, fits⟩ := query_eq_ok.mp read
    obtain rfl : found c index query count = rows := Except.ok.inj ran
    exact ⟨index, query, searched_eq_ok.mp known, (checkOptions_search ..).mp options, vectorRead,
      fits, checkPath_eq_ok.mp path, positive, bounded, rfl⟩
  · rintro ⟨index, query, known, sameKind, read, fits, path, positive, bounded, rfl⟩
    have counted : Search.count (SimilarityQuery.search kind vector count) = .ok count :=
      count_eq_ok.mpr ⟨positive, bounded, rfl⟩
    rw [searched_eq_ok.mpr known, Fallible.ok_bind, (checkOptions_search ..).mpr sameKind,
      Fallible.ok_bind, query_eq_ok.mpr ⟨read, fits⟩, Fallible.ok_bind, checkPath_eq_ok.mpr path,
      Fallible.ok_bind, counted]
    rfl

theorem mem_scored_iff {index : VectorIndex} {query : Embedding} {ds : List Document} {row : Row} :
    row ∈ scored index query ds ↔ ∃ d ∈ ds, ∃ stored,
      (d.get? index.path).bind Embedding.ofJson? = some stored ∧ stored.length = query.length ∧
        row = ⟨d, some (Similarity.score index.metric query stored)⟩ := by
  rw [scored, List.mem_filterMap]
  refine exists_congr fun d => and_congr_right fun _ => ?_
  constructor
  · intro made
    obtain ⟨stored, read, made⟩ := Option.bind_eq_some_iff.mp made
    split at made
    · next length => exact ⟨stored, read, length, (Option.some.inj made).symm⟩
    · cases made
  · rintro ⟨stored, read, length, rfl⟩
    refine Option.bind_eq_some_iff.mpr ⟨stored, read, ?_⟩
    rw [if_pos length]

theorem document_of_mem_scored {index : VectorIndex} {query : Embedding} {ds : List Document}
    {row : Row} (member : row ∈ scored index query ds) : row.document ∈ ds := by
  obtain ⟨d, listed, _, _, _, rfl⟩ := mem_scored_iff.mp member
  exact listed

theorem mem_found {c : Collection} {index : VectorIndex} {query : Embedding} {count : Nat}
    {row : Row} (member : row ∈ found c index query count) : row.document ∈ c.documents :=
  document_of_mem_scored ((stableSort_perm _ _).mem_iff.mp (List.mem_of_mem_take member))

/-- Where the count does not cut them short, all documents with a vector of the right length are
found. -/
theorem mem_found_iff {c : Collection} {index : VectorIndex} {query : Embedding}
    {count : Nat} (enough : c.documents.length ≤ count) {row : Row} :
    row ∈ found c index query count ↔ ∃ d ∈ c.documents, ∃ stored,
      (d.get? index.path).bind Embedding.ofJson? = some stored ∧
        stored.length = query.length ∧
          row = ⟨d, some (Similarity.score index.metric query stored)⟩ := by
  have fits : (stableSort (before index.metric) (scored index query c.documents)).length ≤
      count := by
    rw [(stableSort_perm _ _).length_eq]
    exact Nat.le_trans (List.length_filterMap_le _ _) enough
  rw [found, List.take_of_length_le fits, (stableSort_perm _ _).mem_iff, mem_scored_iff]

theorem mem_of_run {c : Collection} {kind : IndexKind} {vector : Embedding} {count : Nat}
    {rows : List Row} (ran : run c (SimilarityQuery.stage kind vector count) = .ok rows) {row : Row}
    (member : row ∈ rows) : row.document ∈ c.documents := by
  obtain ⟨index, query, -, -, -, -, -, -, -, rfl⟩ := run_eq_ok_iff.mp ran
  exact mem_found member

end Search

namespace SimilarityQuery

/-- A row as the projection leaves it: its score and its document, besides the id. -/
def hit (kind : IndexKind) (row : Row) : Row where
  document :=
    let id : Document := match row.document.get? Document.idKey with
      | some id => [(Document.idKey, id)]
      | none => []
    (id.insert kind.scoreField (Json.ofOption Json.ofFloat row.score)).insert documentKey
      (.object row.document)
  score := row.score

theorem apply_projection (kind : IndexKind) (row : Row) :
    Projection.apply (projection kind) row = .ok (hit kind row) := by
  unfold Projection.apply hit
  cases kind <;> cases row.document.get? Document.idKey <;> rfl

@[simp] theorem get?_hit_document (kind : IndexKind) (row : Row) :
    (hit kind row).document.get? documentKey = some (.object row.document) :=
  Object.get?_insert_self _ _ _

@[simp] theorem get?_hit_score (kind : IndexKind) (row : Row) :
    (hit kind row).document.get? kind.scoreField = some (Json.ofOption Json.ofFloat row.score) := by
  have other : documentKey ≠ kind.scoreField := by cases kind <;> decide
  exact (Object.get?_insert_of_ne _ _ other).trans (Object.get?_insert_self _ _ _)

end SimilarityQuery

namespace Pipeline

theorem stage_project (c : Collection) (kind : IndexKind) (rows : List Row) :
    stage c false rows "$project" (.object (SimilarityQuery.projection kind)) =
      .ok (rows.map (SimilarityQuery.hit kind)) :=
  Fallible.mapM_eq_map fun row _ => SimilarityQuery.apply_projection kind row

/-- The last stage, which is there only for a filter. -/
def filtered : Option Document → List Row → Result (List Row)
  | some filter, rows => selectRows filter rows
  | none, rows => .ok rows

theorem run_similarity (c : Collection) (kind : IndexKind) (vector : Embedding) (count : Nat)
    (filter : Option Document) :
    run c (SimilarityQuery.pipeline kind vector count filter) = do
      let rows ← Search.run c (SimilarityQuery.stage kind vector count)
      let kept ← filtered filter (rows.map (SimilarityQuery.hit kind))
      return kept.map (·.document) := by
  have searched (rows : List Row) (stage : Json) :
      Pipeline.stage c true rows "$search" stage = Search.run c stage := rfl
  have matched (rows : List Row) (filter : Document) :
      Pipeline.stage c false rows "$match" (.object filter) = selectRows filter rows := rfl
  rw [run, SimilarityQuery.pipeline_eq]
  simp only [stages, searched]
  cases Search.run c (SimilarityQuery.stage kind vector count) with
  | error cause => rfl
  | ok rows =>
    simp only [Fallible.ok_bind, stage_project]
    cases filter with
    | none => rfl
    | some filter =>
      simp only [stages, matched, filtered]
      cases selectRows filter (rows.map (SimilarityQuery.hit kind)) <;> rfl

theorem run_similarity_eq_ok {c : Collection} {kind : IndexKind} {vector : Embedding} {count : Nat}
    {filter : Option Document} {out : List Document}
    (ran : run c (SimilarityQuery.pipeline kind vector count filter) = .ok out) :
    ∃ rows kept, Search.run c (SimilarityQuery.stage kind vector count) = .ok rows ∧
      filtered filter (rows.map (SimilarityQuery.hit kind)) = .ok kept ∧
        out = kept.map (·.document) := by
  rw [run_similarity] at ran
  obtain ⟨rows, searched, ran⟩ := Fallible.bind_eq_ok.mp ran
  obtain ⟨kept, selected, ran⟩ := Fallible.bind_eq_ok.mp ran
  exact ⟨rows, kept, searched, selected, (Except.ok.inj ran).symm⟩

theorem mem_of_selectRows {filter : Document} {rows kept : List Row}
    (selected : selectRows filter rows = .ok kept) {row : Row} (member : row ∈ kept) :
    row ∈ rows ∧ row.document.satisfies filter = .ok true := by
  induction rows generalizing kept with
  | nil =>
    obtain rfl : [] = kept := Except.ok.inj selected
    cases member
  | cons first rest ih =>
    obtain ⟨passed, judged, selected⟩ := Fallible.bind_eq_ok.mp selected
    obtain ⟨others, behind, value⟩ := Fallible.bind_eq_ok.mp selected
    obtain rfl := Except.ok.inj value
    cases passed with
    | false =>
      obtain ⟨among, satisfied⟩ := ih behind member
      exact ⟨List.mem_cons_of_mem first among, satisfied⟩
    | true =>
      rcases List.mem_cons.mp member with rfl | member
      · exact ⟨List.mem_cons_self, judged⟩
      · obtain ⟨among, satisfied⟩ := ih behind member
        exact ⟨List.mem_cons_of_mem first among, satisfied⟩

/-- What a similarity search finds are documents of the collection that pass its filter. -/
theorem mem_of_run_similarity {c : Collection} {kind : IndexKind} {vector : Embedding} {count : Nat}
    {filter : Option Document} {found : List Document}
    (ran : run c (SimilarityQuery.pipeline kind vector count filter) = .ok found) {out : Document}
    (member : out ∈ found) :
    ∃ row : Row, row.document ∈ c.documents ∧ out = (SimilarityQuery.hit kind row).document ∧
      out.satisfies (filter.getD []) = .ok true := by
  obtain ⟨rows, kept, searched, selected, rfl⟩ := run_similarity_eq_ok ran
  obtain ⟨hit, left, rfl⟩ := List.mem_map.mp member
  have passed : hit ∈ rows.map (SimilarityQuery.hit kind) ∧
      hit.document.satisfies (filter.getD []) = .ok true := by
    cases filter with
    | none =>
      obtain rfl := Except.ok.inj selected
      exact ⟨left, rfl⟩
    | some filter => exact mem_of_selectRows selected left
  obtain ⟨row, among, rfl⟩ := List.mem_map.mp passed.1
  exact ⟨row, Search.mem_of_run searched among, rfl, passed.2⟩

end Pipeline

namespace Database

theorem perform_aggregate_eq_ok {name : String} {pipeline found : List Document} {db db' : Database}
    (ran : DocumentStore.perform (.aggregate name pipeline) db = (.ok found, db')) :
    db.offline = false ∧ Frame db db' ∧ Pipeline.run (db'.opened name) pipeline = .ok found := by
  cases online : db.offline with
  | true =>
    rw [perform_of_offline online] at ran
    cases (Prod.mk.inj ran).1
  | false =>
    rw [perform_of_online online] at ran
    obtain ⟨answered, rfl⟩ := Prod.mk.inj ran
    exact ⟨rfl, frame_arrive _ db, answered⟩

theorem perform_find_eq_ok {name : String} {filter : Document} {limit : Option Nat}
    {found : List Document} {db db' : Database}
    (ran : DocumentStore.perform (.find name filter limit) db = (.ok found, db')) :
    db.offline = false ∧ Frame db db' ∧ find name filter limit db' = .ok found := by
  cases online : db.offline with
  | true =>
    rw [perform_of_offline online] at ran
    cases (Prod.mk.inj ran).1
  | false =>
    rw [perform_of_online online] at ran
    obtain ⟨answered, rfl⟩ := Prod.mk.inj ran
    exact ⟨rfl, frame_arrive _ db, answered⟩

end Database

namespace StoredMemory

theorem ofRow_hit (kind : IndexKind) (row : Row) :
    ofRow kind (SimilarityQuery.hit kind row).document =
      ofDocument (((Json.ofOption Json.ofFloat row.score).float?).map Single.ofFloat)
        row.document := by
  rw [ofRow, SimilarityQuery.get?_hit_document, SimilarityQuery.get?_hit_score]
  rfl

theorem ofDocument_eq_ok_iff {score : Option Single} {d : Document} {m : StoredMemory} :
    ofDocument score d = .ok m ↔
      ∃ o, d.get? payloadKey = some (.object o) ∧ Payload.ofObject o = .ok m.payload ∧
        d.id? = some m.id ∧ m.score = score := by
  constructor
  · intro read
    unfold ofDocument at read
    cases named : d.id? with
    | none =>
      rw [named] at read
      cases read
    | some id =>
      simp only [named] at read
      split at read
      · next o lies =>
        obtain ⟨p, decoded, value⟩ := Fallible.bind_eq_ok.mp read
        obtain rfl := Except.ok.inj value
        refine ⟨o, lies, ?_, rfl, rfl⟩
        unfold Payload.ofDocument at decoded
        split at decoded
        · next q value => rw [value, Except.ok.inj decoded]
        · cases decoded
      · cases read
  · rintro ⟨o, lies, decoded, named, rfl⟩
    unfold ofDocument
    simp only [named, lies, Payload.ofDocument, decoded]
    rfl

end StoredMemory

namespace VectorStore

theorem mem_of_hits {kind : IndexKind} {count : Nat} {rows : List Document} {ms : List StoredMemory}
    (read : hits kind count rows = .ok ms) {m : StoredMemory} (member : m ∈ ms) :
    ∃ out ∈ rows, StoredMemory.ofRow kind out = .ok m := by
  obtain ⟨found, mapped, value⟩ := Fallible.bind_eq_ok.mp read
  obtain rfl := Except.ok.inj value
  have among := (stableSort_perm _ _).mem_iff.mp (List.mem_of_mem_take member)
  exact Fallible.exists_of_mem_mapM mapped among

/-- A search that goes through, on whatever store, has seen to the index, asked for rows and read
them. -/
theorem rows_of_search {σ : Type} [DocumentStore σ] {v : VectorStore} {vector : Embedding}
    {count : Nat} {filters : Filters} {w w' : World σ} {ms : List StoredMemory}
    (searched : Task.run (v.search vector count filters) w = (.ok ms, w')) :
    ∃ filter status w₁ rows, filters.predicate? searchedPayloadPath = .ok filter ∧
      Task.run v.ensureIndex w = (.ok status, w₁) ∧
      Task.run (Task.call (.aggregate v.collection
        (SimilarityQuery.pipeline status.effective vector count filter))) w₁ = (.ok rows, w') ∧
      hits status.effective count rows = .ok ms := by
  unfold search at searched
  split at searched
  · cases (Prod.mk.inj searched).1
  obtain ⟨_, w₁, checked, searched⟩ := Task.run_bind_eq_ok searched
  obtain ⟨-, rfl⟩ := Prod.mk.inj checked
  obtain ⟨filter, w₂, parsed, searched⟩ := Task.run_bind_eq_ok searched
  obtain ⟨written, rfl⟩ := Prod.mk.inj parsed
  obtain ⟨status, w₃, ensured, searched⟩ := Task.run_bind_eq_ok searched
  obtain ⟨rows, w₄, called, searched⟩ := Task.run_bind_eq_ok searched
  obtain ⟨read, rfl⟩ := Prod.mk.inj searched
  exact ⟨filter, status, w₃, rows, written, ensured, called, read⟩

theorem run_search_eq_ok {v : VectorStore} {vector : Embedding} {count : Nat} {filters : Filters}
    {w w' : World Database} {ms : List StoredMemory}
    (searched : Task.run (v.search vector count filters) w = (.ok ms, w')) :
    ∃ filter kind found, filters.predicate? searchedPayloadPath = .ok filter ∧
      Database.Frame w.store w'.store ∧
      Pipeline.run (w'.store.opened v.collection)
        (SimilarityQuery.pipeline kind vector count filter) = .ok found ∧
      hits kind count found = .ok ms := by
  obtain ⟨filter, status, w₁, found, written, ensured, called, read⟩ := rows_of_search searched
  -- seeing to the index touches no document
  have kept := v.keeps_ensureIndex w
  rw [ensured] at kept
  obtain ⟨-, noted, ran⟩ := Database.perform_aggregate_eq_ok (Task.run_call_eq_ok called).1
  exact ⟨filter, status.effective, found, written, kept.trans noted, ran, read⟩

theorem run_list_eq_ok {v : VectorStore} {filters : Filters} {limit : Nat} {w w' : World Database}
    {ms : List StoredMemory} (listed : Task.run (v.list filters limit) w = (.ok ms, w')) :
    ∃ filter, filters.predicate storedPayloadPath = .ok filter ∧
      Database.Frame w.store w'.store ∧
      ∀ m ∈ ms, ∃ d ∈ w'.store.documents v.collection,
        d.satisfies filter = .ok true ∧ StoredMemory.ofDocument none d = .ok m := by
  obtain ⟨filter, w₁, parsed, listed⟩ := Task.run_bind_eq_ok listed
  obtain ⟨written, rfl⟩ := Prod.mk.inj parsed
  refine ⟨filter, written, ?_⟩
  split at listed
  · obtain ⟨value, rfl⟩ := Prod.mk.inj listed
    obtain rfl := Except.ok.inj value
    exact ⟨.refl _, fun m none => by cases none⟩
  · obtain ⟨found, w₂, called, listed⟩ := Task.run_bind_eq_ok listed
    obtain ⟨mapped, rfl⟩ := Prod.mk.inj listed
    obtain ⟨-, noted, selected⟩ := Database.perform_find_eq_ok (Task.run_call_eq_ok called).1
    refine ⟨noted, fun m member => ?_⟩
    obtain ⟨d, among, read⟩ := Fallible.exists_of_mem_mapM mapped member
    obtain ⟨stored, passed⟩ := Database.mem_of_find selected among
    exact ⟨d, stored, passed, read⟩

end VectorStore

end MemoryBank
