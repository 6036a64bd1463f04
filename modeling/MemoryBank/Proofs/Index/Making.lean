import MemoryBank.Proofs.Filter.Conditions
import MemoryBank.Proofs.Index.Concurrent
import MemoryBank.Proofs.Index.Searchable

set_option autoImplicit false

/-!
A descriptor on its way through a store: it is written as a command, checked, kept as a spec,
reported, read back by an adapter and read again by a search. All of these take it for the same
index.
-/

namespace MemoryBank

theorem Database.put_arrive_put (db : Database) (name : String) (c : Collection) (again : Call) :
    (arrive again (db.put name c)).put name c = arrive again (db.put name c) := by
  simp only [put, arrive, NameMap.insert_insert]

namespace Catalogue

variable {catalogue : List Document} {d : IndexDescriptor}

/-- No index goes by this name, and none is a vector index. -/
structure Admits (catalogue : List Document) (name : String) : Prop where
  unnamed : ∀ spec ∈ catalogue, spec.get? "name" ≠ some (.string name)
  unmarked : ∀ spec ∈ catalogue, IndexSpec.vectorPath? spec = none

theorem Admits.find? (admits : Admits catalogue d.name) :
    catalogue.find? (·.get? "name" == d.spec.get? "name") = none := by
  rw [List.find?_eq_none]
  intro spec member same
  have name : d.spec.get? "name" = some (.string d.name) := rfl
  rw [name] at same
  cases entry : spec.get? "name" with
  | none =>
    rw [entry] at same
    cases same
  | some v =>
    rw [entry] at same
    have equal : v.same (.string d.name) = true := same
    exact admits.unnamed spec member (entry.trans (congrArg some (Json.eq_of_same_string equal)))

theorem Admits.free (admits : Admits catalogue d.name) : Free catalogue d.spec where
  unnamed := admits.find?
  unmarked path _ spec member marked := by cases (admits.unmarked spec member).symm.trans marked

theorem Admits.add (admits : Admits catalogue d.name) :
    Catalogue.add catalogue d.spec = .ok (catalogue ++ [d.spec]) :=
  admits.free.add

theorem Admits.add_again (admits : Admits catalogue d.name) :
    Catalogue.add (catalogue ++ [d.spec]) d.spec = .ok (catalogue ++ [d.spec]) :=
  (admits.free.has (beq_self_eq_true (some d.name)) d.same_spec).add

/-- Neither the adapter nor a search stops at the specs that were there before. -/
theorem Admits.taken (admits : Admits catalogue d.name) :
    searched? (catalogue ++ [d.spec]) = IndexSpec.vectorIndex? d.spec ∧
      chosen? (catalogue ++ [d.spec]) = some d.spec := by
  have skipped : catalogue.findSome? IndexSpec.vectorIndex? = none := by
    rw [List.findSome?_eq_none_iff]
    intro spec member
    unfold IndexSpec.vectorIndex?
    rw [admits.unmarked spec member]
    rfl
  have passed : catalogue.find? IndexSpec.onVectors = none := by
    rw [List.find?_eq_none]
    intro spec member marked
    obtain ⟨path, first⟩ := IndexSpec.exists_vectorPath? marked
    cases (admits.unmarked spec member).symm.trans first
  rw [searched?, List.findSome?_append, skipped, Option.none_or, List.findSome?_singleton, chosen?,
    List.find?_append, passed, Option.none_or]
  exact ⟨rfl, rfl⟩

end Catalogue

namespace Database

variable {db : Database} {name : String} {d : IndexDescriptor}

/-- The report on a collection with these indexes, behind the one of the ids. -/
def report (name : String) (specs : List Document) : Document :=
  [("cursor", .object [("id", .ofInt 0), ("ns", .string name),
    ("firstBatch", .array ((idIndexSpec :: specs).map .object))]), ("ok", .ofInt 1)]

theorem perform_listIndexes_of_find? (online : db.offline = false) (named : name.isEmpty = false)
    {c : Collection} (found : db.find? name = some c) :
    DocumentStore.perform (.command (Document.command listIndexesCommand name)) db =
      (.ok (report name c.indexes),
        arrive (.command (Document.command listIndexesCommand name)) db) := by
  have here : (arrive (.command (Document.command listIndexesCommand name)) db).existing name =
      .ok c := by
    rw [existing, show (arrive _ db).find? name = some c from found]
  rw [perform_of_online online]
  refine Prod.ext ?_ rfl
  change listIndexes (Document.command listIndexesCommand name) (arrive _ db) = _
  rw [listIndexes, namedCollection_command, named]
  simp only [Bool.false_eq_true, if_false, Fallible.ok_bind, here]
  rfl

/-- What the command that makes an index does where the catalogue takes the spec. -/
theorem perform_createCommand_of_add (online : db.offline = false) (named : name.isEmpty = false)
    (valid : IndexSpec.validate d.spec = .ok ()) {catalogue : List Document}
    (added : Catalogue.add (db.indexes name) d.spec = .ok catalogue) :
    ∃ reply, DocumentStore.perform (.command (d.createCommand name)) db =
      (.ok reply, (arrive (.command (d.createCommand name)) db).put name
        ⟨db.documents name, catalogue⟩) := by
  have requested : requestedSpecs (d.createCommand name) = .ok (name, [d.spec]) := by
    rw [requestedSpecs_createCommand, named, valid]
    rfl
  have all : Catalogue.addAll [d.spec] (db.indexes name) = (.ok (), catalogue) := by
    simp only [Catalogue.addAll, added]
  exact ⟨_, (perform_createIndexes_eq_ok rfl).mpr
    ⟨online, name, [d.spec], catalogue, requested, all, rfl, rfl⟩⟩

theorem reported_of_admits (admits : Catalogue.Admits (db.indexes name) d.name)
    (word : d.dimensions < pow2 32) {db' : Database}
    (made : db'.indexes name = db.indexes name ++ [d.spec]) :
    db'.reported name =
      some ⟨d.name, d.kind.storeName, some d.dimensions, some d.metric.storeName⟩ := by
  rw [reported_eq, made, admits.taken.2, Option.bind_some, IndexDescriptor.ofSpec?_spec word]

end Database

/-- Which searches the collection answers once the descriptor is the first vector index. -/
theorem Search.run_accepted_iff {c : Collection} {d : IndexDescriptor}
    (valid : IndexSpec.validate d.spec = .ok ())
    (taken : Catalogue.searched? c.indexes = IndexSpec.vectorIndex? d.spec) (kind : IndexKind)
    {vector : Embedding} (finite : ∀ x ∈ vector, x.finite = true) {count : Nat}
    (positive : 0 < count) (bounded : count < pow2 64) :
    (∃ rows, Pipeline.run c (SimilarityQuery.pipeline kind vector count none) = .ok rows) ↔
      kind = d.kind ∧ vector.length = d.dimensions := by
  obtain ⟨index, read, indexed, sized⟩ := IndexDescriptor.vectorIndex?_spec valid
  have path : index.path = vectorPath :=
    (Option.some.inj (IndexSpec.vectorPath?_of_vectorIndex? read)).symm
  obtain ⟨query, embedded, length⟩ := Embedding.exists_ofJson finite
  rw [read] at taken
  rw [Pipeline.run_similarity]
  constructor
  · rintro ⟨rows, ran⟩
    obtain ⟨found, passed, -⟩ := Fallible.bind_eq_ok.mp ran
    obtain ⟨index', query', known, sameKind, embedded', fits, -⟩ := Search.run_eq_ok_iff.mp passed
    obtain rfl := Option.some.inj (taken.symm.trans known)
    obtain rfl := Option.some.inj (embedded.symm.trans embedded')
    exact ⟨sameKind.symm.trans indexed, length.symm.trans (fits.trans sized)⟩
  · rintro ⟨rfl, fits⟩
    rw [Search.run_eq_ok_iff.mpr ⟨index, query, taken, indexed, embedded,
      length.trans (fits.trans sized.symm), path, positive, bounded, rfl⟩]
    exact ⟨_, rfl⟩

namespace Upkeep

/-- Every part of the program that meets the index of a descriptor takes it for what the descriptor
says: the store that makes it, its report, the adapter that inspects it and the search, which
answers the queries in the dialect and of the length of the descriptor and no others. -/
theorem descriptor_understood {w : World Database} (online : w.store.offline = false)
    {name : String} (named : name.isEmpty = false) {d : IndexDescriptor}
    (called : d.name.isEmpty = false) (sized : d.Sized)
    (admits : Catalogue.Admits (w.store.indexes name) d.name) :
    ∃ reply w', Task.run (Task.call (.command (d.createCommand name))) w = (.ok reply, w') ∧
      (Task.run (Task.call (.command (Document.command listIndexesCommand name))) w').1 =
        .ok (Database.report name (w.store.indexes name ++ [d.spec])) ∧
      (Task.run (inspect name) w').1 =
        .ok (some ⟨d.name, d.kind.storeName, some d.dimensions, some d.metric.storeName⟩) ∧
      (∃ reply', Task.run (Task.call (.command (d.createCommand name))) w' =
        (.ok reply', { w' with store := .arrive (.command (d.createCommand name)) w'.store })) ∧
      ∀ kind vector count, (∀ x ∈ vector, x.finite = true) → 0 < count → count < pow2 64 →
        ((Task.run (Task.call (.aggregate name
            (SimilarityQuery.pipeline kind vector count none))) w').1.isOk = true ↔
          kind = d.kind ∧ vector.length = d.dimensions) := by
  have valid := IndexDescriptor.validate_spec_of_sized called sized
  obtain ⟨reply, made⟩ := Database.perform_createCommand_of_add online named valid admits.add
  obtain ⟨w', ran, grown⟩ : ∃ w', Task.run (Task.call (.command (d.createCommand name))) w =
      (.ok reply, w') ∧ w'.store = (Database.arrive (.command (d.createCommand name)) w.store).put
        name ⟨w.store.documents name, w.store.indexes name ++ [d.spec]⟩ :=
    ⟨⟨_, w.verdicts⟩, by rw [Task.run_call, made]; rfl, rfl⟩
  have reachable : w'.store.offline = false := by
    rw [grown]
    exact online
  have found : w'.store.find? name =
      some ⟨w.store.documents name, w.store.indexes name ++ [d.spec]⟩ := by
    rw [grown]
    exact (NameMap.get?_insert ..).trans (if_pos rfl)
  have indexes : w'.store.indexes name = w.store.indexes name ++ [d.spec] :=
    Database.indexes_of_find? found
  refine ⟨reply, w', ran, ?_, ?_, ?_, fun kind vector count finite positive bounded => ?_⟩
  · rw [Task.run_call, Database.perform_listIndexes_of_find? reachable named found]
  · rw [run_inspect_online reachable, named, Database.reported_of_admits admits sized.1.2 indexes]
    rfl
  · obtain ⟨reply', again⟩ := Database.perform_createCommand_of_add reachable named valid
      (indexes ▸ admits.add_again)
    refine ⟨reply', ?_⟩
    rw [Task.run_call, again, Database.documents_of_find? found, indexes]
    simp only [grown, Database.put_arrive_put]
  · have taken := (congrArg Catalogue.searched? indexes).trans admits.taken.1
    rw [VectorStore.run_aggregate reachable,
      ← Search.run_accepted_iff valid taken kind finite positive bounded]
    cases Pipeline.run (w'.store.opened name)
      (SimilarityQuery.pipeline kind vector count none) <;> simp [Except.isOk, Except.toBool]

/-- A collection with an index on the users of its memories. -/
def indexedByUser : World Database where
  store :=
    { collections := .ofList [("memories", ⟨[], [[("name", .string "by_user"),
        ("key", .object [("payload.user_id", .ofInt 1)])]]⟩)]
      log := []
      offline := false
      issued := 0 }
  verdicts := .empty

theorem descriptor_understood_beside_user :
    ∃ reply w', Task.run (Task.call (.command (IndexDescriptor.createCommand
        ⟨"v", 2, .innerProduct, .hnsw 16 64⟩ "memories"))) indexedByUser = (.ok reply, w') ∧
      (Task.run (inspect "memories") w').1 =
        .ok (some ⟨"v", "vector-hnsw", some 2, some "IP"⟩) ∧
      (Task.run (Task.call (.aggregate "memories"
        (SimilarityQuery.pipeline .hnsw [.ofInt 1, .ofInt 0] 1 none))) w').1.isOk = true ∧
      ¬(Task.run (Task.call (.aggregate "memories"
        (SimilarityQuery.pipeline .diskann [.ofInt 1, .ofInt 0] 1 none))) w').1.isOk = true ∧
      ¬(Task.run (Task.call (.aggregate "memories"
        (SimilarityQuery.pipeline .hnsw [.ofInt 1] 1 none))) w').1.isOk = true := by
  have admitted : Catalogue.Admits (indexedByUser.store.indexes "memories") "v" := by
    have listed : indexedByUser.store.indexes "memories" = [[("name", .string "by_user"),
      ("key", .object [("payload.user_id", .ofInt 1)])]] := rfl
    rw [listed]
    exact ⟨List.forall_mem_singleton.mpr (by simp [Object.get?_cons]),
      List.forall_mem_singleton.mpr rfl⟩
  have sized : IndexDescriptor.Sized ⟨"v", 2, .innerProduct, .hnsw 16 64⟩ := by
    simp [IndexDescriptor.Sized, pow2]
  obtain ⟨reply, w', made, -, inspected, -, answered⟩ :=
    descriptor_understood (w := indexedByUser) rfl rfl rfl sized admitted
  have two : ∀ x ∈ ([.ofInt 1, .ofInt 0] : Embedding), x.finite = true := by decide +kernel
  have one : ∀ x ∈ ([.ofInt 1] : Embedding), x.finite = true := by decide +kernel
  refine ⟨reply, w', made, inspected, ?_, ?_, ?_⟩
  · exact (answered .hnsw _ 1 two (by decide) (by decide)).mpr ⟨rfl, rfl⟩
  · rw [answered .diskann _ 1 two (by decide) (by decide)]
    exact fun other => by cases other.1
  · rw [answered .hnsw _ 1 one (by decide) (by decide)]
    exact fun shorter => by cases shorter.2

end Upkeep

end MemoryBank
