import MemoryBank.Proofs.Index.Searchable
import MemoryBank.Proofs.Number.Narrowing
import MemoryBank.Proofs.Store.Filtering
import MemoryBank.Proofs.Store.Ranking

set_option autoImplicit false

/-!
In which order a search shows the rows that the store ranks by the metric of its index. The hits are
ordered by their scores, the largest first, whatever the metric; of distances the largest is the
worst.
-/

namespace MemoryBank

namespace Row

/-- The score that is shown for the row. -/
def single (row : Row) : Option Single := (row.score.filter Binary64.finite).map Single.ofFloat

/-- The hit shows the document of the row and its score. -/
def ReadAs (row : Row) (m : StoredMemory) : Prop :=
  StoredMemory.ofDocument row.single row.document = .ok m

/-- By the metric the first is the better match: the larger similarity, or the smaller distance. -/
def Better (metric : Metric) (a b : Row) : Prop :=
  ∃ x y, a.score = some x ∧ b.score = some y ∧
    match metric with
    | .cosine | .innerProduct => y < x
    | .euclidean => x < y

/-- The first is the better match, and the scores that are shown tell the two apart. -/
def Outranks (metric : Metric) (a b : Row) : Prop :=
  a.Better metric b ∧ ∃ s t, a.single = some s ∧ b.single = some t ∧ s ≠ t

/-- No row stands behind one that it outranks. -/
def BestFirst (metric : Metric) (rows : List Row) : Prop :=
  rows.Pairwise fun a b => ¬b.Outranks metric a

theorem single_eq (row : Row) :
    (Json.ofOption Json.ofFloat row.score).float?.map Single.ofFloat = row.single := by
  unfold single
  cases row.score with
  | none => rfl
  | some x =>
    change (Json.ofFloat x).float?.map Single.ofFloat = _
    rw [Json.ofFloat, Option.filter_some]
    split <;> rfl

theorem single_eq_some {row : Row} {s : Single} (shown : row.single = some s) :
    ∃ x, row.score = some x ∧ Binary64.finite x = true ∧ s = .ofFloat x := by
  obtain ⟨x, kept, rfl⟩ := Option.map_eq_some_iff.mp shown
  obtain ⟨scored, finite⟩ := Option.filter_eq_some_iff.mp kept
  exact ⟨x, scored, finite, rfl⟩

variable {metric : Metric} {a b : Row}

/-- Smaller distances are smaller scores, so the other order is that of the similarities. -/
theorem outranks_euclidean : a.Outranks .euclidean b ↔ b.Outranks .innerProduct a := by
  constructor
  · rintro ⟨⟨x, y, first, second, less⟩, s, t, shown, shown', apart⟩
    exact ⟨⟨y, x, second, first, less⟩, t, s, shown', shown, apart.symm⟩
  · rintro ⟨⟨x, y, first, second, less⟩, s, t, shown, shown', apart⟩
    exact ⟨⟨y, x, second, first, less⟩, t, s, shown', shown, apart.symm⟩

theorem outranks_of_ne (similarity : metric ≠ .euclidean) :
    a.Outranks metric b ↔ a.Outranks .innerProduct b := by
  cases metric with
  | cosine | innerProduct => exact .rfl
  | euclidean => exact absurd rfl similarity

theorem Outranks.rank_lt (outranks : a.Outranks .innerProduct b) {m n : StoredMemory}
    (first : a.ReadAs m) (second : b.ReadAs n) : n.rank < m.rank := by
  obtain ⟨⟨x, y, scored, scored', less⟩, s, t, shown, shown', apart⟩ := outranks
  obtain ⟨-, -, -, -, score⟩ := StoredMemory.ofDocument_eq_ok_iff.mp first
  obtain ⟨-, -, -, -, score'⟩ := StoredMemory.ofDocument_eq_ok_iff.mp second
  obtain ⟨x', same, finite, rfl⟩ := single_eq_some shown
  obtain ⟨y', same', finite', rfl⟩ := single_eq_some shown'
  obtain rfl : x = x' := Option.some.inj (scored.symm.trans same)
  obtain rfl : y = y' := Option.some.inj (scored'.symm.trans same')
  rw [StoredMemory.rank, StoredMemory.rank, score, score', shown, shown']
  exact Single.rank_ofFloat_lt finite' finite less apart.symm

theorem not_outranks_self (metric : Metric) (a : Row) : ¬a.Outranks metric a := by
  rintro ⟨-, s, t, shown, shown', apart⟩
  exact apart (Option.some.inj (shown.symm.trans shown'))

/-- The hits stand in the order of their ranks, and what outranks has the larger one. -/
theorem bestFirst_of_hits {rows : List Row} {ms : List StoredMemory}
    (shown : List.Forall₂ ReadAs rows ms)
    (ordered : ms.Pairwise fun m n => StoredMemory.before n m = false) :
    BestFirst .innerProduct rows := by
  refine List.pairwise_iff_getElem.mpr fun i j hi hj less outranks => ?_
  have hi' : i < ms.length := shown.length_eq ▸ hi
  have hj' : j < ms.length := shown.length_eq ▸ hj
  have above := outranks.rank_lt (shown.get hj hj') (shown.get hi hi')
  have inFront := List.pairwise_iff_getElem.mp ordered i j hi' hj' less
  simp only [List.get_eq_getElem] at above
  rcases StoredMemory.before_eq_false.mp inFront with below | ⟨same, -⟩ <;> omega

theorem bestFirst_euclidean_iff {rows : List Row} (largest : BestFirst .innerProduct rows) :
    BestFirst .euclidean rows ↔ ∀ a ∈ rows, ∀ b ∈ rows, ¬a.Outranks .euclidean b := by
  constructor
  · intro smallest a among b among'
    by_cases same : a = b
    · exact same ▸ not_outranks_self _ a
    -- in both orders neither of two rows outranks the other
    have symmetric : Std.Symm fun a b : Row =>
        ¬b.Outranks .euclidean a ∧ ¬a.Outranks .euclidean b := ⟨fun _ _ h => ⟨h.2, h.1⟩⟩
    have neither : rows.Pairwise fun a b =>
        ¬b.Outranks .euclidean a ∧ ¬a.Outranks .euclidean b :=
      smallest.imp₂ (fun _ _ one other => ⟨one, fun outranks =>
        other (outranks_euclidean.mp outranks)⟩) largest
    exact (neither.forall among among' same).2
  · intro none
    refine List.pairwise_iff_forall_sublist.mpr fun {a b} sub => ?_
    exact none b (sub.subset (by simp)) a (sub.subset (by simp))

end Row

theorem Fallible.forall₂_of_mapM {ε α β : Type} {f : α → Except ε β} {xs : List α} {ys : List β}
    (mapped : xs.mapM f = .ok ys) : List.Forall₂ (fun x y => f x = .ok y) xs ys := by
  induction xs generalizing ys with
  | nil =>
    obtain rfl := Except.ok.inj mapped
    exact .nil
  | cons x xs ih =>
    obtain ⟨y, rest, first, behind, rfl⟩ := mapM_cons_eq_ok.mp mapped
    exact .cons first (ih behind)

namespace VectorStore

/-- The rows that the search stage finds, less those that the filter leaves out. -/
def foundRows (c : Collection) (index : VectorIndex) (query : Embedding) (count : Nat)
    (filter : Option Document) : List Row :=
  (Search.found c index query count).filter fun row =>
    Document.passes (SimilarityQuery.hit index.kind row).document (filter.getD [])

/-- The hits show all rows that are left, in some order. -/
theorem shown_of_hits {c : Collection} {kind : IndexKind} {vector : Embedding} {count : Nat}
    {filter : Option Document} {out : List Document} {ms : List StoredMemory}
    (ran : Pipeline.run c (SimilarityQuery.pipeline kind vector count filter) = .ok out)
    (read : hits kind count out = .ok ms) :
    ∃ index query shown, Catalogue.searched? c.indexes = some index ∧ index.path = vectorPath ∧
      Embedding.ofJson? vector.toJson = some query ∧
      shown.Perm (foundRows c index query count filter) ∧ List.Forall₂ Row.ReadAs shown ms ∧
      ms.Pairwise fun m n => StoredMemory.before n m = false := by
  obtain ⟨rows, kept, searched, selected, rfl⟩ := Pipeline.run_similarity_eq_ok ran
  obtain ⟨index, query, known, rfl, vectorRead, -, path, -, -, rfl⟩ :=
    Search.run_eq_ok_iff.mp searched
  obtain rfl := Pipeline.filtered_eq_ok selected
  obtain ⟨found, left, mapped, permuted, length, ordered⟩ := hits_eq_ok read
  rw [List.filter_map] at mapped length
  have all : left = [] := by
    have total := permuted.length_eq
    have bound : (Search.found c index query count).length ≤ count := List.length_take_le ..
    have fewer := List.length_filter_le (fun row => Document.passes
      (SimilarityQuery.hit index.kind row).document (filter.getD []))
      (Search.found c index query count)
    rw [List.length_append, Fallible.length_of_mapM mapped, length] at total
    simp only [List.length_map, Function.comp_def] at total
    exact List.eq_nil_of_length_eq_zero (by omega)
  subst all
  rw [List.append_nil] at permuted ordered
  have reads : List.Forall₂ Row.ReadAs (foundRows c index query count filter) found := by
    have each := Fallible.forall₂_of_mapM mapped
    rw [List.forall₂_map_left_iff, List.forall₂_map_left_iff] at each
    refine each.imp fun row m value => ?_
    rwa [StoredMemory.ofRow_hit, Row.single_eq] at value
  have composed : Relation.Comp (List.Forall₂ Row.ReadAs) List.Perm
      (foundRows c index query count filter) ms := ⟨found, reads, permuted.symm⟩
  rw [List.forall₂_comp_perm_eq_perm_comp_forall₂] at composed
  obtain ⟨shown, same, shows⟩ := composed
  exact ⟨index, query, shown, known, path, vectorRead, same.symm, shows, ordered⟩

/-- The hits of a search show the rows that the store has found, the largest score first. So they
are in the order of the metric exactly if it is no distance, or the distances are not told apart by
the scores that are shown. -/
theorem search_best_first_iff (v : VectorStore) (vector : Embedding) (count : Nat)
    (filters : Filters) {w w' : World Database} {ms : List StoredMemory}
    (searched : Task.run (v.search vector count filters) w = (.ok ms, w')) :
    ∃ filter index query shown, filters.predicate? searchedPayloadPath = .ok filter ∧
      Catalogue.searched? (w'.store.indexes v.collection) = some index ∧
      index.path = vectorPath ∧ Embedding.ofJson? vector.toJson = some query ∧
      shown.Perm (foundRows (w'.store.opened v.collection) index query count filter) ∧
      List.Forall₂ Row.ReadAs shown ms ∧ Row.BestFirst .innerProduct shown ∧
      (Row.BestFirst index.metric shown ↔
        index.metric ≠ .euclidean ∨ ∀ a ∈ shown, ∀ b ∈ shown, ¬a.Outranks .euclidean b) := by
  obtain ⟨filter, kind, out, written, -, ran, read⟩ := run_search_eq_ok searched
  obtain ⟨index, query, shown, known, path, vectorRead, same, shows, ordered⟩ :=
    shown_of_hits ran read
  have largest := Row.bestFirst_of_hits shows ordered
  refine ⟨filter, index, query, shown, written, known, path, vectorRead, same, shows, largest, ?_⟩
  by_cases distance : index.metric = .euclidean
  · rw [distance]
    simpa using Row.bestFirst_euclidean_iff largest
  · refine iff_of_true ?_ (.inl distance)
    exact largest.imp fun kept outranks => kept ((Row.outranks_of_ne distance).mp outranks)

/-- Two memories, put in where others have made an index of this metric. -/
def nearAndFar (metric : Metric) : World Database :=
  (Task.run (do
    let _ ← Task.call (.command (IndexDescriptor.createCommand
      { IndexDescriptor.forCollection "memories" .diskann 1 with metric := metric } "memories"))
    insert ⟨⟨"memories", 1, .diskann, 0, 50⟩⟩ ["a", "b"] [[.ofInt 1], [.ofInt 3]]
      [.new "t" .fact ⟨some "u", none, none⟩, .new "t" .fact ⟨some "u", none, none⟩])
    ⟨.empty, .empty⟩).2

def nearest (metric : Metric) : Result (List StoredMemory) × World Database :=
  Task.run (search ⟨⟨"memories", 1, .diskann, 0, 50⟩⟩ [.ofInt 1] 2 .empty) (nearAndFar metric)

theorem search_best_first_by_product :
    ∃ ms w', nearest .innerProduct = (.ok ms, w') ∧ ms.map (·.id) = ["b", "a"] ∧
      ∃ index shown, Catalogue.searched? (w'.store.indexes "memories") = some index ∧
        index.metric = .innerProduct ∧ List.Forall₂ Row.ReadAs shown ms ∧
          Row.BestFirst index.metric shown := by
  obtain ⟨ms, w', searched, order⟩ := Task.run_ok_of_map
    (t := search ⟨⟨"memories", 1, .diskann, 0, 50⟩⟩ [.ofInt 1] 2 .empty)
    (w := nearAndFar .innerProduct) (f := fun ms => ms.map (·.id)) (b := ["b", "a"])
    (by decide +kernel)
  have metric : (Catalogue.searched? ((nearest .innerProduct).2.store.indexes "memories")).map
      (·.metric) = some .innerProduct := by decide +kernel
  obtain ⟨_, index, _, shown, -, known, -, -, -, shows, -, placed⟩ :=
    search_best_first_iff _ _ _ _ searched
  have same : nearest .innerProduct = (.ok ms, w') := searched
  rw [same] at metric
  change Catalogue.searched? (w'.store.indexes "memories") = some index at known
  rw [known] at metric
  have product : index.metric = .innerProduct := Option.some.inj metric
  refine ⟨ms, w', searched, order, index, shown, known, product, shows, placed.mpr (.inl ?_)⟩
  simp [product]

/-- By the distance the store finds the nearer memory first, and the search shows it last. -/
theorem search_shows_farthest_first :
    ∃ ms w' index shown, nearest .euclidean = (.ok ms, w') ∧
      ms.map (fun m => (m.id, m.score)) = [("b", some (.ofInt 2)), ("a", some .zero)] ∧
      Catalogue.searched? (w'.store.indexes "memories") = some index ∧
      index.metric = .euclidean ∧ index.path = vectorPath ∧
      (Search.found (w'.store.opened "memories") index [.ofInt 1] 2).map
        (fun row => (row.document.id?, row.score)) =
          [(some "a", some 0.0), (some "b", some 2.0)] ∧
      shown.Perm (foundRows (w'.store.opened "memories") index [.ofInt 1] 2 none) ∧
      List.Forall₂ Row.ReadAs shown ms ∧ ¬Row.BestFirst index.metric shown := by
  obtain ⟨ms, w', searched, order⟩ := Task.run_ok_of_map
    (t := search ⟨⟨"memories", 1, .diskann, 0, 50⟩⟩ [.ofInt 1] 2 .empty)
    (w := nearAndFar .euclidean) (f := fun ms => ms.map fun m => (m.id, m.score))
    (b := [("b", some (.ofInt 2)), ("a", some .zero)]) (by decide +kernel)
  have ranking : (Catalogue.searched? ((nearest .euclidean).2.store.indexes "memories")).map
      (fun index => (index.metric, (Search.found ((nearest .euclidean).2.store.opened "memories")
        index [.ofInt 1] 2).map fun row => (row.document.id?, row.score))) =
      some (.euclidean, [(some "a", some 0.0), (some "b", some 2.0)]) := by decide +kernel
  have same : nearest .euclidean = (.ok ms, w') := searched
  rw [same] at ranking
  obtain ⟨filter, kind, out, written, -, ran, read⟩ := run_search_eq_ok searched
  obtain rfl : none = filter := Except.ok.inj written
  obtain ⟨index, query, shown, known, path, vectorRead, permuted, shows, -⟩ :=
    shown_of_hits ran read
  have asked : Embedding.ofJson? (Embedding.toJson [.ofInt 1]) = some [.ofInt 1] := by
    decide +kernel
  obtain rfl := Option.some.inj (asked.symm.trans vectorRead)
  change Catalogue.searched? (w'.store.indexes "memories") = some index at known
  rw [known] at ranking
  obtain ⟨metric, ranked⟩ := Prod.mk.inj (Option.some.inj ranking)
  refine ⟨ms, w', index, shown, same, order, known, metric, path, ranked, permuted, shows, ?_⟩
  obtain ⟨m, rest, rfl, first, order⟩ := List.map_eq_cons_iff.mp order
  obtain ⟨n, rest, rfl, second, order⟩ := List.map_eq_cons_iff.mp order
  obtain rfl := List.map_eq_nil_iff.mp order
  obtain ⟨a, _, far, behind, rfl⟩ := List.forall₂_cons_right_iff.mp shows
  obtain ⟨b, _, near, -, rfl⟩ := List.forall₂_cons_right_iff.mp behind
  have scored {row : Row} (among : row ∈ foundRows (w'.store.opened "memories") index [.ofInt 1] 2
      none) : (row.document.id?, row.score) ∈ [(some "a", some 0.0), (some "b", some 2.0)] :=
    ranked ▸ List.mem_map_of_mem (List.mem_filter.mp among).1
  have top := scored (permuted.subset List.mem_cons_self)
  have low := scored (permuted.subset (List.mem_cons_of_mem _ List.mem_cons_self))
  obtain ⟨-, -, -, named, shown⟩ := StoredMemory.ofDocument_eq_ok_iff.mp far
  obtain ⟨-, -, -, named', shown'⟩ := StoredMemory.ofDocument_eq_ok_iff.mp near
  obtain ⟨id, score⟩ := Prod.mk.inj first
  obtain ⟨id', score'⟩ := Prod.mk.inj second
  have distance : a.score = some 2.0 := by simpa [named, id] using top
  have distance' : b.score = some 0.0 := by simpa [named', id'] using low
  intro placed
  refine List.rel_of_pairwise_cons placed List.mem_cons_self ⟨?_, .zero, .ofInt 2, ?_, ?_, ?_⟩
  · rw [metric]
    exact ⟨0.0, 2.0, distance', distance, by decide +kernel⟩
  · exact shown'.symm.trans score'
  · exact shown.symm.trans score
  · decide

end VectorStore

end MemoryBank
