import MemoryBank.Proofs.Filter.Translation
import MemoryBank.Proofs.Sorting
import MemoryBank.Proofs.Store.Finding
import MemoryBank.Proofs.Store.Identity
import MemoryBank.Proofs.Store.Ranking

set_option autoImplicit false

/-!
Searching with filters. The filters are judged on the hits of a search without them, after these
have been ranked and cut, and listing with the same filters judges the documents themselves; a hit
is left in exactly if its document is listed.
-/

namespace MemoryBank

namespace Document

def passes (d filter : Document) : Bool := (d.satisfies filter).toOption.getD false

theorem passes_of_satisfies {d filter : Document} {passed : Bool}
    (judged : d.satisfies filter = .ok passed) : d.passes filter = passed := by
  rw [passes, judged]
  rfl

end Document

theorem Database.selectFirst_eq_ok {filter : Document} {limit : Nat} {ds found : List Document}
    (enough : ds.length ≤ limit) (selected : Document.selectFirst filter limit ds = .ok found) :
    found = ds.filter (Document.passes · filter) := by
  induction ds generalizing limit found with
  | nil => cases limit <;> exact (Except.ok.inj selected).symm
  | cons d rest ih =>
    obtain ⟨limit, rfl⟩ := Nat.exists_eq_add_one_of_ne_zero (Nat.ne_of_gt
      (Nat.lt_of_lt_of_le (Nat.succ_pos _) enough))
    have behind : rest.length ≤ limit := Nat.le_of_succ_le_succ enough
    obtain ⟨passed, judged, selected⟩ := Fallible.bind_eq_ok.mp selected
    rw [List.filter_cons, Document.passes_of_satisfies judged]
    cases passed with
    | false => exact ih (Nat.le_succ_of_le behind) selected
    | true =>
      obtain ⟨others, rested, value⟩ := Fallible.bind_eq_ok.mp selected
      obtain rfl := Except.ok.inj value
      rw [ih behind rested]
      rfl

theorem Database.find_eq_ok {db : Database} {name : String} {filter : Document} {limit : Nat}
    {found : List Document} (enough : (db.documents name).length ≤ limit + 1)
    (selected : find name filter (some (limit + 1)) db = .ok found) :
    found = (db.documents name).filter (Document.passes · filter) := by
  unfold find at selected
  cases here : db.find? name with
  | none =>
    rw [here] at selected
    rw [documents_of_missing here]
    exact (Except.ok.inj selected).symm
  | some c =>
    rw [here] at selected
    rw [documents_of_find? here] at enough ⊢
    exact selectFirst_eq_ok enough selected

namespace Pipeline

theorem selectRows_eq_ok {filter : Document} {rows kept : List Row}
    (selected : selectRows filter rows = .ok kept) :
    kept = rows.filter fun row => Document.passes row.document filter := by
  induction rows generalizing kept with
  | nil => exact (Except.ok.inj selected).symm
  | cons row rest ih =>
    obtain ⟨passed, judged, selected⟩ := Fallible.bind_eq_ok.mp selected
    obtain ⟨others, behind, value⟩ := Fallible.bind_eq_ok.mp selected
    obtain rfl := Except.ok.inj value
    rw [List.filter_cons, Document.passes_of_satisfies judged, ih behind]

theorem filtered_eq_ok {filter : Option Document} {rows kept : List Row}
    (selected : filtered filter rows = .ok kept) :
    kept = rows.filter fun row => Document.passes row.document (filter.getD []) := by
  cases filter with
  | some filter => exact selectRows_eq_ok selected
  | none =>
    obtain rfl := Except.ok.inj selected
    -- every document meets the empty filter
    exact (List.filter_eq_self.mpr fun _ _ => rfl).symm

end Pipeline

/-- Wherever a payload lies, the predicate that is written for the place judges it alike. -/
theorem Place.passes_eq {filters : Filters} {filter filter' : Document}
    (stored : filters.predicate storedPayloadPath = .ok filter)
    (searched : filters.predicate searchedPayloadPath = .ok filter') {d : Document}
    {payload : Object} (lies : d.get? payloadKey = some (.object payload)) (kind : IndexKind)
    (score : Option Float) :
    Document.passes (SimilarityQuery.hit kind ⟨d, score⟩).document filter' =
      d.passes filter := by
  obtain ⟨_, written, -⟩ := Fallible.bind_eq_ok.mp stored
  obtain ⟨cs, parsed, -⟩ := Fallible.bind_eq_ok.mp written
  have inner : Place.stored.Shows d payload := Place.shows_of_get? lies
  have outer : Place.searched.Shows (SimilarityQuery.hit kind ⟨d, score⟩).document payload :=
    inner.within (SimilarityQuery.get?_hit_document ..)
  rw [Document.passes, Document.passes, Place.satisfies_predicate inner parsed stored,
    Place.satisfies_predicate outer parsed searched]

namespace VectorStore

/-- What a listing shows where the limit does not cut it short. -/
theorem run_list_whole {v : VectorStore} {filters : Filters} {limit : Nat} {w w' : World Database}
    {ms : List StoredMemory} (listed : Task.run (v.list filters limit) w = (.ok ms, w'))
    (enough : (w.store.documents v.collection).length ≤ limit) :
    ∃ filter, filters.predicate storedPayloadPath = .ok filter ∧
      ((w.store.documents v.collection).filter (Document.passes · filter)).mapM
        (StoredMemory.ofDocument none) = .ok ms := by
  obtain ⟨filter, w₁, parsed, listed⟩ := Task.run_bind_eq_ok listed
  obtain ⟨written, rfl⟩ := Prod.mk.inj parsed
  refine ⟨filter, written, ?_⟩
  split at listed
  · next none =>
    obtain ⟨value, -⟩ := Prod.mk.inj listed
    obtain rfl := Except.ok.inj value
    rw [none, Nat.le_zero, List.length_eq_zero_iff] at enough
    rw [enough]
    rfl
  · next some =>
    obtain ⟨n, rfl⟩ := Nat.exists_eq_add_one_of_ne_zero some
    obtain ⟨found, w₂, called, listed⟩ := Task.run_bind_eq_ok listed
    obtain ⟨mapped, -⟩ := Prod.mk.inj listed
    obtain ⟨-, noted, selected⟩ := Database.perform_find_eq_ok (Task.run_call_eq_ok called).1
    rw [← noted.documents] at enough ⊢
    rw [← Database.find_eq_ok enough selected]
    exact mapped

theorem named_of_ofDocument {ds : List Document} (identified : Identified ds) {d : Document}
    (member : d ∈ ds) {score : Option Single} {m : StoredMemory}
    (read : StoredMemory.ofDocument score d = .ok m) : d.Named m.id := by
  obtain ⟨_, -, -, shown, -⟩ := StoredMemory.ofDocument_eq_ok_iff.mp read
  obtain ⟨id, named⟩ := identified.named d member
  rwa [← Option.some.inj (named.id?_eq.symm.trans shown)]

/-- A memory with the id of a document is listed exactly if that document passes. -/
theorem any_listed_eq {ds : List Document} (identified : Identified ds) {filter : Document}
    {listed : List StoredMemory}
    (shown : (ds.filter (Document.passes · filter)).mapM (StoredMemory.ofDocument none) =
      .ok listed) {d : Document} (member : d ∈ ds) {score : Option Single} {m : StoredMemory}
    (read : StoredMemory.ofDocument score d = .ok m) :
    listed.any (·.id == m.id) = d.passes filter := by
  have named := named_of_ofDocument identified member read
  rw [Bool.eq_iff_iff, List.any_eq_true]
  constructor
  · rintro ⟨other, among, same⟩
    obtain ⟨e, passed, read'⟩ := Fallible.exists_of_mem_mapM shown among
    obtain ⟨stored, passed⟩ := List.mem_filter.mp passed
    have named' := named_of_ofDocument identified stored read'
    rw [beq_iff_eq.mp same] at named'
    exact identified.eq_of_named stored member named' named ▸ passed
  · intro passed
    obtain ⟨other, among, read'⟩ :=
      Fallible.exists_mem_of_mapM shown (List.mem_filter.mpr ⟨member, passed⟩)
    obtain rfl := Except.ok.inj ((StoredMemory.exists_ofDocument read none).symm.trans read')
    exact ⟨_, among, beq_self_eq_true m.id⟩

section

variable {c : Collection} {kind : IndexKind} {vector : Embedding} {count : Nat} {filters : Filters}
  {filter : Option Document} {rows rows' : List Document}

/-- With filters the pipeline gives the rows it gives without, less those that do not pass. -/
theorem rows_filtered
    (unfiltered : Pipeline.run c (SimilarityQuery.pipeline kind vector count none) = .ok rows)
    (filtered : Pipeline.run c (SimilarityQuery.pipeline kind vector count filter) = .ok rows') :
    rows' = rows.filter (Document.passes · (filter.getD [])) := by
  obtain ⟨found, _, searched, all, rfl⟩ := Pipeline.run_similarity_eq_ok unfiltered
  obtain ⟨found', kept, searched', selected, rfl⟩ := Pipeline.run_similarity_eq_ok filtered
  obtain rfl := Except.ok.inj all
  obtain rfl := Except.ok.inj (searched.symm.trans searched')
  rw [Pipeline.filtered_eq_ok selected]
  exact (List.filter_map (f := Row.document) (p := (Document.passes · (filter.getD [])))).symm

theorem length_rows_le
    (unfiltered : Pipeline.run c (SimilarityQuery.pipeline kind vector count none) = .ok rows) :
    rows.length ≤ count := by
  obtain ⟨found, _, searched, all, rfl⟩ := Pipeline.run_similarity_eq_ok unfiltered
  obtain rfl := Except.ok.inj all
  obtain ⟨index, query, -, -, -, -, -, -, -, rfl⟩ := Search.run_eq_ok_iff.mp searched
  rw [List.length_map, List.length_map]
  exact List.length_take_le ..

theorem hits_filtered (identified : Identified c.documents)
    (written : filters.predicate? searchedPayloadPath = .ok filter)
    (unfiltered : Pipeline.run c (SimilarityQuery.pipeline kind vector count none) = .ok rows)
    (filtered : Pipeline.run c (SimilarityQuery.pipeline kind vector count filter) = .ok rows')
    {plain picked listed : List StoredMemory} (read : hits kind count rows = .ok plain)
    (read' : hits kind count rows' = .ok picked) {stored : Document}
    (parsed : filters.predicate storedPayloadPath = .ok stored)
    (shown : (c.documents.filter (Document.passes · stored)).mapM (StoredMemory.ofDocument none) =
      .ok listed) :
    picked = plain.filter fun m => listed.any (·.id == m.id) := by
  obtain ⟨all, mapped, value⟩ := Fallible.bind_eq_ok.mp read
  obtain rfl := Except.ok.inj value
  obtain ⟨some, mapped', value⟩ := Fallible.bind_eq_ok.mp read'
  obtain rfl := Except.ok.inj value
  have searched : filters.predicate searchedPayloadPath = .ok (filter.getD []) := by
    rw [Filters.predicate, written]
    rfl
  -- a row is judged as its document is, and by that its memory is listed
  have agree : ∀ out ∈ rows, ∀ m, StoredMemory.ofRow kind out = .ok m →
      Document.passes out (filter.getD []) = listed.any (·.id == m.id) := by
    intro out member m value
    obtain ⟨row, among, rfl, -⟩ := Pipeline.mem_of_run_similarity unfiltered member
    rw [StoredMemory.ofRow_hit] at value
    obtain ⟨payload, lies, -⟩ := StoredMemory.ofDocument_eq_ok_iff.mp value
    rw [any_listed_eq identified shown among value]
    exact Place.passes_eq parsed searched lies kind row.score
  have left := Fallible.mapM_filter mapped agree
  rw [← rows_filtered unfiltered filtered, mapped'] at left
  obtain rfl := Except.ok.inj left
  have fits : (stableSort StoredMemory.before all).length ≤ count := by
    rw [(stableSort_perm _ _).length_eq, Fallible.length_of_mapM mapped]
    exact length_rows_le unfiltered
  rw [List.take_of_length_le fits, filter_stableSort StoredMemory.orders_before]
  refine List.take_of_length_le ?_
  rw [← filter_stableSort StoredMemory.orders_before]
  exact Nat.le_trans (List.length_filter_le ..) fits

end

/-- What operations of one adapter have left is searched with filters by searching it without and
leaving out the hits that a whole listing with the filters does not show. -/
theorem search_filtered (v : VectorStore) (ops : List Operation) (vector : Embedding) (count : Nat)
    (filters : Filters) (limit : Nat) {plain picked listed : List StoredMemory}
    (unfiltered : (Task.run (v.search vector count .empty) (v.after ops)).1 = .ok plain)
    (filtered : (Task.run (v.search vector count filters) (v.after ops)).1 = .ok picked)
    (shown : (Task.run (v.list filters limit) (v.after ops)).1 = .ok listed)
    (enough : ((v.after ops).store.documents v.collection).length ≤ limit) :
    picked = plain.filter fun m => listed.any (·.id == m.id) := by
  obtain ⟨_, status, w₁, rows, written, ensured, called, read⟩ :=
    rows_of_search (Prod.ext unfiltered rfl)
  obtain ⟨filter, status', w₁', rows', written', ensured', called', read'⟩ :=
    rows_of_search (Prod.ext filtered rfl)
  -- both searches start from what seeing to the index leaves behind
  obtain ⟨same, rfl⟩ := Prod.mk.inj (ensured.symm.trans ensured')
  obtain rfl := Except.ok.inj same
  obtain rfl := Except.ok.inj written
  have online := (Database.perform_aggregate_eq_ok (Task.run_call_eq_ok called).1).1
  rw [run_aggregate online] at called called'
  have kept := v.keeps_ensureIndex (v.after ops)
  rw [ensured] at kept
  obtain ⟨stored, parsed, listed⟩ := run_list_whole (Prod.ext shown rfl) enough
  have identified := v.identified_after ops v.collection
  rw [← kept.documents] at identified listed
  exact hits_filtered identified written' (congrArg Prod.fst called) (congrArg Prod.fst called')
    read read' parsed listed

/-- Two memories of different users, with the same vector. -/
def ofTwoUsers : List Operation :=
  [.insert ["a", "b"] [[.ofInt 1], [.ofInt 1]]
    [.new "t" .fact ⟨some "u", none, none⟩, .new "t" .fact ⟨some "x", none, none⟩]]

theorem search_filtered_by_user :
    ∃ plain picked listed,
      (Task.run (search ⟨⟨"memories", 1, .diskann, 0, 50⟩⟩ [.ofInt 1] 2 .empty)
        (after ⟨⟨"memories", 1, .diskann, 0, 50⟩⟩ ofTwoUsers)).1 = .ok plain ∧
      (Task.run (search ⟨⟨"memories", 1, .diskann, 0, 50⟩⟩ [.ofInt 1] 2
        (.ofObject [("user_id", .string "x")]))
        (after ⟨⟨"memories", 1, .diskann, 0, 50⟩⟩ ofTwoUsers)).1 = .ok picked ∧
      (Task.run (list ⟨⟨"memories", 1, .diskann, 0, 50⟩⟩ (.ofObject [("user_id", .string "x")]) 2)
        (after ⟨⟨"memories", 1, .diskann, 0, 50⟩⟩ ofTwoUsers)).1 = .ok listed ∧
      plain.map (·.id) = ["a", "b"] ∧ picked.map (·.id) = ["b"] ∧
      picked = plain.filter fun m => listed.any (·.id == m.id) := by
  obtain ⟨plain, _, unfiltered, all⟩ := Task.run_ok_of_map
    (t := search ⟨⟨"memories", 1, .diskann, 0, 50⟩⟩ [.ofInt 1] 2 .empty)
    (w := after ⟨⟨"memories", 1, .diskann, 0, 50⟩⟩ ofTwoUsers) (f := fun ms => ms.map (·.id))
    (b := ["a", "b"]) (by decide +kernel)
  obtain ⟨picked, _, filtered, one⟩ := Task.run_ok_of_map
    (t := search ⟨⟨"memories", 1, .diskann, 0, 50⟩⟩ [.ofInt 1] 2
      (.ofObject [("user_id", .string "x")]))
    (w := after ⟨⟨"memories", 1, .diskann, 0, 50⟩⟩ ofTwoUsers) (f := fun ms => ms.map (·.id))
    (b := ["b"]) (by decide +kernel)
  obtain ⟨listed, _, shown⟩ := Task.run_ok_of_isSome
    (t := list ⟨⟨"memories", 1, .diskann, 0, 50⟩⟩ (.ofObject [("user_id", .string "x")]) 2)
    (w := after ⟨⟨"memories", 1, .diskann, 0, 50⟩⟩ ofTwoUsers) (by decide +kernel)
  replace unfiltered := congrArg Prod.fst unfiltered
  replace filtered := congrArg Prod.fst filtered
  replace shown := congrArg Prod.fst shown
  exact ⟨plain, picked, listed, unfiltered, filtered, shown, all, one,
    search_filtered _ _ _ _ _ _ unfiltered filtered shown (by decide +kernel)⟩

end VectorStore

end MemoryBank
