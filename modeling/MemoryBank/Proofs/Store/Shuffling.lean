import MemoryBank.Proofs.Index.Ensuring
import MemoryBank.Proofs.Number.Comparing
import MemoryBank.Proofs.Store.Identity
import MemoryBank.Proofs.Store.Operations

set_option autoImplicit false

/-!
Searches in a collection whose documents stand in another order. Main statement: where every document
has an id of its own and no score is undefined, the order makes no difference to what is found, nor
to what is cut off.
-/

namespace MemoryBank

namespace Search

/-- A missing id comes before every other. -/
def idLess : Option String → Option String → Bool
  | none, some _ => true
  | some x, some y => x < y
  | _, none => false

theorem idLess_some_eq_false {x : Option String} {y : String} :
    idLess x (some y) = false ↔ ∃ z, x = some z ∧ y ≤ z := by
  cases x with
  | none => simp [idLess]
  | some x => rw [idLess, decide_eq_false_iff_not, String.not_lt]; simp

theorem orders_idLess : Orders idLess where
  asymm {x y} first := by
    cases x with
    | none => cases y <;> rfl
    | some x =>
      cases y with
      | none => cases first
      | some y => exact decide_eq_false (String.lt_asymm (of_decide_eq_true first))
  negTrans {x y z} first second := by
    cases z with
    | none => cases x <;> rfl
    | some z =>
      obtain ⟨y, rfl, below⟩ := idLess_some_eq_false.mp second
      obtain ⟨x, rfl, below'⟩ := idLess_some_eq_false.mp first
      exact idLess_some_eq_false.mpr ⟨x, rfl, String.le_trans below below'⟩

theorem idBefore_eq (a b : Document) : idBefore a b = idLess a.id? b.id? := rfl

/-- The score comes first, where the undefined value counts as zero. -/
def ahead (metric : Metric) (a b : Row) : Bool :=
  match metric with
  | .euclidean => Binary64.below (a.score.getD 0.0) (b.score.getD 0.0)
  | _ => Binary64.below (b.score.getD 0.0) (a.score.getD 0.0)

theorem orders_ahead (metric : Metric) : Orders (ahead metric) := by
  have scores := Binary64.orders_below.comap fun row : Row => row.score.getD 0.0
  cases metric with
  | euclidean => exact scores
  | cosine | innerProduct => exact scores.swap

/-- The order of a search, but for scores that are undefined. -/
def totalBefore (metric : Metric) : Row → Row → Bool :=
  firstBy (ahead metric) fun a b => idLess a.document.id? b.document.id?

theorem orders_totalBefore (metric : Metric) : Orders (totalBefore metric) :=
  (orders_ahead metric).firstBy (orders_idLess.comap fun row : Row => row.document.id?)

theorem before_eq (metric : Metric) {a b : Row} (ha : (a.score.getD 0.0).isNaN = false)
    (hb : (b.score.getD 0.0).isNaN = false) : before metric a b = totalBefore metric a b := by
  unfold before totalBefore firstBy ahead
  cases metric <;> simp only [Binary64.decide_lt_eq_below ha hb,
    Binary64.decide_lt_eq_below hb ha, idBefore_eq]

/-- A row is told by its document. -/
theorem eq_of_mem_scored {index : VectorIndex} {query : Embedding} {ds : List Document} {a b : Row}
    (left : a ∈ scored index query ds) (right : b ∈ scored index query ds)
    (same : a.document = b.document) : a = b := by
  obtain ⟨d, -, stored, read, -, rfl⟩ := mem_scored_iff.mp left
  obtain ⟨e, -, stored', read', -, rfl⟩ := mem_scored_iff.mp right
  obtain rfl : d = e := same
  rw [Option.some.inj (read.symm.trans read')]

/-- No score is undefined. -/
def Comparable (rows : List Row) : Prop :=
  ∀ row ∈ rows, ∀ x, row.score = some x → x.isNaN = false

theorem Comparable.getD {rows : List Row} (comparable : Comparable rows) {row : Row}
    (member : row ∈ rows) : (row.score.getD 0.0).isNaN = false := by
  cases scored : row.score with
  | none => rfl
  | some x => exact comparable row member x scored

theorem stableSort_scored_eq_of_perm {index : VectorIndex} {query : Embedding}
    {ds ds' : List Document} (permuted : ds.Perm ds') (identified : Identified ds)
    (comparable : Comparable (scored index query ds)) :
    stableSort (before index.metric) (scored index query ds) =
      stableSort (before index.metric) (scored index query ds') := by
  have rows : (scored index query ds).Perm (scored index query ds') := permuted.filterMap _
  have agree : ∀ a ∈ scored index query ds, ∀ b ∈ scored index query ds,
      before index.metric a b = totalBefore index.metric a b := fun a left b right =>
    before_eq index.metric (comparable.getD left) (comparable.getD right)
  rw [stableSort_congr agree, stableSort_congr fun a left b right =>
    agree a (rows.mem_iff.mpr left) b (rows.mem_iff.mpr right)]
  refine stableSort_eq_of_perm (orders_totalBefore index.metric) rows fun a left b right ab ba => ?_
  -- neither is ahead of the other, so their ids are one
  obtain ⟨behind, level⟩ := firstBy_eq_false.mp ab
  obtain ⟨behind', level'⟩ := firstBy_eq_false.mp ba
  have ids : idLess a.document.id? b.document.id? = false :=
    level.resolve_left (Bool.eq_false_iff.mp behind')
  have ids' : idLess b.document.id? a.document.id? = false :=
    level'.resolve_left (Bool.eq_false_iff.mp behind)
  have listed := document_of_mem_scored left
  have listed' := document_of_mem_scored right
  obtain ⟨x, named⟩ := identified.named _ listed
  obtain ⟨y, named'⟩ := identified.named _ listed'
  rw [named.id?_eq, named'.id?_eq] at ids ids'
  obtain ⟨_, ⟨⟩, below⟩ := idLess_some_eq_false.mp ids
  obtain ⟨_, ⟨⟩, below'⟩ := idLess_some_eq_false.mp ids'
  obtain rfl := String.le_antisymm below below'
  exact eq_of_mem_scored left right (identified.eq_of_named listed listed' named named')

theorem run_eq_of_perm {c c' : Collection} (indexes : c'.indexes = c.indexes)
    (permuted : c.documents.Perm c'.documents) (identified : Identified c.documents)
    {kind : IndexKind} {vector : Embedding} (comparable : ∀ index query,
      Catalogue.searched? c.indexes = some index → Embedding.ofJson? vector.toJson = some query →
        Comparable (scored index query c.documents)) (count : Nat) :
    run c (SimilarityQuery.stage kind vector count) =
      run c' (SimilarityQuery.stage kind vector count) := by
  have asked : request (SimilarityQuery.stage kind vector count) =
      .ok (SimilarityQuery.search kind vector count) := rfl
  have same : searched c' = searched c := by rw [searched, searched, indexes]
  rw [run, run, asked, Fallible.ok_bind, Fallible.ok_bind, same]
  cases known : searched c with
  | error cause => rw [Fallible.error_bind, Fallible.error_bind]
  | ok index =>
    rw [Fallible.ok_bind, Fallible.ok_bind]
    refine congrArg _ (funext fun _ => ?_)
    cases read : Search.query index (SimilarityQuery.search kind vector count) with
    | error cause => rw [Fallible.error_bind, Fallible.error_bind]
    | ok query =>
      have comparable := comparable index query (searched_eq_ok.mp known) (query_eq_ok.mp read).1
      rw [Fallible.ok_bind, Fallible.ok_bind,
        stableSort_scored_eq_of_perm permuted identified comparable]

end Search

namespace Task

variable {σ α β : Type} [DocumentStore σ]

/-- From two worlds in a relation the task gives the same answer, and leaves two in it. -/
def Agrees (R : World σ → World σ → Prop) (t : Task α) : Prop :=
  ∀ w w', R w w' → (run t w).1 = (run t w').1 ∧ R (run t w).2 (run t w').2

theorem answer_bind {t : Task α} {f : α → Task β} {w w' : World σ}
    (same : (run t w).1 = (run t w').1)
    (behind : ∀ a w₁ w₁', run t w = (.ok a, w₁) → run t w' = (.ok a, w₁') →
      (run (f a) w₁).1 = (run (f a) w₁').1) :
    (run (t >>= f) w).1 = (run (t >>= f) w').1 := by
  rw [run_bind, run_bind]
  rcases outcome : run t w with ⟨_ | a, w₁⟩ <;> rcases outcome' : run t w' with ⟨_ | a', w₁'⟩ <;>
    rw [outcome, outcome'] at same
  · exact congrArg Except.error (Except.error.inj same)
  · cases same
  · cases same
  · obtain rfl := Except.ok.inj same
    exact behind a w₁ w₁' outcome outcome'

theorem closed_agrees (R : World σ → World σ → Prop) :
    Task.Closed fun _ t => t.Agrees R where
  result r := fun _ _ related => ⟨rfl, related⟩
  bind {α β t f} first behind := fun w w' related => by
    obtain ⟨same, left⟩ := first w w' related
    refine ⟨answer_bind same fun a w₁ w₁' outcome outcome' => ?_, ?_⟩
    · rw [outcome, outcome'] at left
      exact (behind a w₁ w₁' left).1
    · rw [run_bind, run_bind]
      rcases outcome : run t w with ⟨_ | a, w₁⟩ <;>
        rcases outcome' : run t w' with ⟨_ | a', w₁'⟩ <;> rw [outcome, outcome'] at same left
      · exact left
      · cases same
      · cases same
      · obtain rfl := Except.ok.inj same
        exact (behind a w₁ w₁' left).2

end Task

/-- The collections of this name differ at most in the order of their documents. -/
structure World.Shuffled (name : String) (w w' : World Database) : Prop where
  offline : w'.store.offline = w.store.offline
  verdict : w'.verdicts.get? name = w.verdicts.get? name
  indexes : w'.store.indexes name = w.store.indexes name
  documents : (w.store.documents name).Perm (w'.store.documents name)

theorem World.Shuffled.arrived {name : String} {w w' : World Database}
    (shuffled : Shuffled name w w') (c : Call) :
    Shuffled name { w with store := .arrive c w.store } { w' with store := .arrive c w'.store } :=
  ⟨shuffled.offline, shuffled.verdict, shuffled.indexes, shuffled.documents⟩

theorem Database.createIndexes_of_requested {command : Document} {name : String}
    {specs : List Document} (requested : requestedSpecs command = .ok (name, specs))
    (db : Database) :
    createIndexes command db =
      ((fun _ => made (db.indexes name) (Catalogue.addAll specs (db.indexes name)).2) <$>
        (Catalogue.addAll specs (db.indexes name)).1,
        db.put name ⟨db.documents name, (Catalogue.addAll specs (db.indexes name)).2⟩) := by
  unfold createIndexes
  rw [requested]
  rfl

namespace Upkeep

variable {name : String}

theorem agrees_verdict : (Task.verdict name).Agrees (World.Shuffled name) := fun w w' shuffled => by
  rw [Task.run_verdict, Task.run_verdict, shuffled.verdict]
  exact ⟨rfl, shuffled⟩

theorem agrees_remember (status : IndexStatus) :
    (Task.remember name status).Agrees (World.Shuffled name) := fun w w' shuffled => by
  rw [Task.run_remember, Task.run_remember, shuffled.verdict]
  cases w.verdicts.get? name with
  | some standing => exact ⟨rfl, shuffled⟩
  | none =>
    refine ⟨rfl, shuffled.offline, ?_, shuffled.indexes, shuffled.documents⟩
    rw [NameMap.get?_insert, NameMap.get?_insert, if_pos rfl, if_pos rfl]

/-- A collection that is not there is seen like one without indexes. -/
theorem agrees_inspect : (inspect name).Agrees (World.Shuffled name) := fun w w' shuffled => by
  have left := shuffled.arrived (.command (Document.command listIndexesCommand name))
  cases online : w.store.offline with
  | true =>
    have offline := shuffled.offline.trans online
    rw [run_inspect_fst, run_inspect_fst, run_inspect, run_inspect,
      Database.perform_of_offline online, Database.perform_of_offline offline]
    exact ⟨rfl, left⟩
  | false =>
    rw [run_inspect_online online, run_inspect_online (shuffled.offline.trans online),
      Database.reported, Database.reported, shuffled.indexes]
    exact ⟨rfl, left⟩

theorem agrees_createCommand (d : IndexDescriptor) :
    (Task.call (.command (d.createCommand name))).Agrees (World.Shuffled name) :=
  fun w w' shuffled => by
  have left := shuffled.arrived (.command (d.createCommand name))
  rw [Task.run_call, Task.run_call]
  cases online : w.store.offline with
  | true =>
    have offline := shuffled.offline.trans online
    rw [Database.perform_of_offline online, Database.perform_of_offline offline]
    exact ⟨rfl, left⟩
  | false =>
    have executed (db : Database) : Database.execute (.command (d.createCommand name)) db =
        Database.createIndexes (d.createCommand name) db := rfl
    rw [Database.perform_of_online online,
      Database.perform_of_online (shuffled.offline.trans online), executed, executed]
    cases requested : Database.requestedSpecs (d.createCommand name) with
    | error cause =>
      unfold Database.createIndexes
      rw [requested]
      exact ⟨rfl, left⟩
    | ok asked =>
      obtain ⟨target, specs⟩ := asked
      obtain ⟨rfl, rfl⟩ := Database.requestedSpecs_create requested
      rw [Database.createIndexes_of_requested requested,
        Database.createIndexes_of_requested requested, left.indexes]
      refine ⟨rfl, left.offline, left.verdict, ?_, ?_⟩
      · rw [Database.indexes_put, Database.indexes_put, if_pos rfl, if_pos rfl]
      · rw [Database.documents_put, Database.documents_put, if_pos rfl, if_pos rfl]
        exact left.documents

theorem agrees_ensure (d : IndexDescriptor) : (ensure name d).Agrees (World.Shuffled name) :=
  ensure_of_parts (Task.closed_agrees _) agrees_verdict agrees_inspect (agrees_createCommand d)
    agrees_remember

end Upkeep

namespace VectorStore

/-- No score is undefined that a search for this vector gives. -/
def Comparable (v : VectorStore) (vector : Embedding) (w : World Database) : Prop :=
  ∀ status w₁ index query, Task.run v.ensureIndex w = (.ok status, w₁) →
    Catalogue.searched? (w₁.store.indexes v.collection) = some index →
    Embedding.ofJson? vector.toJson = some query →
    Search.Comparable (Search.scored index query (w.store.documents v.collection))

/-- Two stores answer a search alike, with the same hits or the same refusal, if their collections
differ in the order of the documents alone, each of which has an id of its own. -/
theorem search_any_order (v : VectorStore) {w w' : World Database}
    (shuffled : World.Shuffled v.collection w w')
    (identified : Identified (w.store.documents v.collection)) (vector : Embedding)
    (comparable : v.Comparable vector w) (count : Nat) (filters : Filters) :
    (Task.run (v.search vector count filters) w).1 =
      (Task.run (v.search vector count filters) w').1 := by
  unfold search
  split
  · rfl
  refine Task.answer_bind rfl fun _ _ _ checked checked' => ?_
  obtain ⟨-, rfl⟩ := Prod.mk.inj checked
  obtain ⟨-, rfl⟩ := Prod.mk.inj checked'
  refine Task.answer_bind rfl fun filter _ _ parsed parsed' => ?_
  obtain ⟨-, rfl⟩ := Prod.mk.inj parsed
  obtain ⟨-, rfl⟩ := Prod.mk.inj parsed'
  obtain ⟨same, left⟩ := Upkeep.agrees_ensure _ _ _ shuffled
  refine Task.answer_bind same fun status w₁ w₁' ensured ensured' => ?_
  -- seeing to the index leaves the documents as they are
  have kept := v.keeps_ensureIndex w
  rw [ensured] at kept
  rw [Comparable, ← kept.documents v.collection] at comparable
  rw [← kept.documents v.collection] at identified
  have left : World.Shuffled v.collection w₁ w₁' := by
    rw [← ensureIndex, ensured, ensured'] at left
    exact left
  refine Task.answer_bind ?_ fun rows _ _ called called' => rfl
  rw [Task.run_call, Task.run_call]
  cases online : w₁.store.offline with
  | true =>
    rw [Database.perform_of_offline online,
      Database.perform_of_offline (left.offline.trans online)]
  | false =>
    rw [Database.perform_of_online online, Database.perform_of_online (left.offline.trans online)]
    change Pipeline.run (w₁.store.opened v.collection) _ =
      Pipeline.run (w₁'.store.opened v.collection) _
    rw [Pipeline.run_similarity, Pipeline.run_similarity,
      Search.run_eq_of_perm left.indexes left.documents identified
        fun index query => comparable status w₁ index query ensured]

/-- An adapter for vectors of one component. -/
def unary : VectorStore := ⟨⟨"memories", 1, .diskann, 0, 50⟩⟩

def twin (id : String) : Document :=
  Record.toDocument ⟨id, [.ofInt 1], .new "t" .fact ⟨some "u", none, none⟩⟩

/-- A store of two memories with the same vector. -/
def twins (first second : String) : World Database :=
  ⟨Database.empty.put "memories" ⟨[twin first, twin second],
    [(unary.descriptor "memories" 1).spec]⟩, .empty⟩

theorem search_any_order_of_twins :
    World.Shuffled unary.collection (twins "a" "b") (twins "b" "a") ∧
      Identified ((twins "a" "b").store.documents unary.collection) ∧
      unary.Comparable [.ofInt 1] (twins "a" "b") ∧
      ∀ w ∈ [twins "a" "b", twins "b" "a"],
        (Task.run (unary.search [.ofInt 1] 1 .empty) w).1.toOption.map (·.map (·.id)) =
          some ["a"] := by
  have shuffled : World.Shuffled unary.collection (twins "a" "b") (twins "b" "a") :=
    ⟨rfl, rfl, rfl, .swap _ _ _⟩
  have identified : Identified ((twins "a" "b").store.documents unary.collection) := by
    have named (id : String) : (twin id).Named id := rfl
    refine (Identified.empty.append (named "a") nofun).append (named "b") fun d member other => ?_
    obtain rfl := List.mem_singleton.mp member
    exact absurd (Json.string.inj (Option.some.inj other)) (by decide)
  have defined : ((Catalogue.searched?
      ((Task.run unary.ensureIndex (twins "a" "b")).2.store.indexes unary.collection)).all
        fun index => (Embedding.ofJson? (Embedding.toJson [.ofInt 1])).all fun query =>
          (Search.scored index query ((twins "a" "b").store.documents unary.collection)).all
            fun row => row.score.all fun x => !x.isNaN) = true := by
    decide +kernel
  have comparable : unary.Comparable [.ofInt 1] (twins "a" "b") := by
    intro status w₁ index query ensured known read row member x scored
    simp only [ensured, known, read, Option.all_some, List.all_eq_true] at defined
    simpa [scored] using defined row member
  refine ⟨shuffled, identified, comparable, ?_⟩
  have same := search_any_order unary shuffled identified _ comparable 1 .empty
  have first : (Task.run (unary.search [.ofInt 1] 1 .empty) (twins "a" "b")).1.toOption.map
      (·.map (·.id)) = some ["a"] := by decide +kernel
  simp only [List.forall_mem_cons, ← same, first]
  exact ⟨trivial, trivial, nofun⟩

end VectorStore

end MemoryBank
