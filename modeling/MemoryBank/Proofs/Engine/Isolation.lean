import MemoryBank.Engine.Direct
import MemoryBank.Proofs.Filter.Translation
import MemoryBank.Proofs.Memory.Reading
import MemoryBank.Proofs.Store.Searching
import MemoryBank.Service.Basic

set_option autoImplicit false

/-!
What an engine may read for a scope. The conditions of the scope take the place of the caller's, the
store applies them to the payloads of the documents, and a payload that can be read at all has no
value under the key of an owner but a name or null.
-/

namespace MemoryBank

namespace Scope

/-- A payload names every owner of the scope; an owner with an empty name is none. -/
def Covers (s : Scope) (o : Object) : Prop :=
  ∀ key name, (key, some name) ∈ s.owners → name ≠ "" → o.get? key = some (.string name)

def condition? (o : String × Option String) : Option (String × Json) :=
  match o.2 with
  | some name => if name.isEmpty then none else some (o.1, .string name)
  | none => none

/-- The conditions of a scope, one for each owner. -/
def conditions (s : Scope) : List (String × Json) := s.owners.filterMap condition?

theorem fst_condition? {o : String × Option String} {e : String × Json}
    (h : condition? o = some e) : e.1 = o.1 := by
  unfold condition? at h
  split at h
  · split at h
    · cases h
    · obtain rfl := Option.some.inj h
      rfl
  · cases h

theorem names_conditions (s : Scope) : (s.conditions.map Prod.fst).Sublist keys := by
  have among (owners : List (String × Option String)) :
      ((owners.filterMap condition?).map Prod.fst).Sublist (owners.map Prod.fst) := by
    induction owners with
    | nil => exact .refl _
    | cons o rest ih =>
      rw [List.filterMap_cons, List.map_cons]
      cases written : condition? o with
      | none => exact ih.cons o.1
      | some e =>
        rw [List.map_cons, fst_condition? written]
        exact ih.cons_cons o.1
  exact among s.owners

theorem mem_conditions {s : Scope} {key name : String} (owner : (key, some name) ∈ s.owners)
    (named : name ≠ "") : (key, .string name) ∈ s.conditions :=
  List.mem_filterMap.mpr ⟨(key, some name), owner, by simp [condition?, named]⟩

theorem get?_filters (s : Scope) (key : String) :
    s.filters.get? key = NameMap.lookup s.conditions key := by
  have distinct := (names_conditions s).nodup (by decide)
  have found := NameMap.get?_insertAll distinct .empty key
  rw [show NameMap.get? (NameMap.empty : NameMap Json) key = none from rfl, Option.or_none] at found
  exact found

theorem get?_filters_owner {s : Scope} {key name : String} (owner : (key, some name) ∈ s.owners)
    (named : name ≠ "") : s.filters.get? key = some (.string name) := by
  rw [get?_filters]
  exact NameMap.lookup_of_mem ((names_conditions s).nodup (by decide)) (mem_conditions owner named)

theorem get?_filters_other (s : Scope) {key : String} (other : key ∉ keys) :
    s.filters.get? key = none := by
  rw [get?_filters]
  cases found : NameMap.lookup s.conditions key with
  | none => rfl
  | some v =>
    have named : key ∈ s.conditions.map Prod.fst :=
      List.mem_map.mpr ⟨(key, v), NameMap.mem_of_lookup found, rfl⟩
    exact absurd ((names_conditions s).subset named) other

theorem key_of_mem_owners {s : Scope} {owner : String × Option String} (h : owner ∈ s.owners) :
    owner.1 ∈ keys := List.mem_map_of_mem (f := Prod.fst) h

/-- What is read as an owner is a name or null. -/
theorem Reads.not_array {o : Object} {s : Scope} (read : Reads o s) {key : String}
    (owner : key ∈ keys) (items : List Json) : o.get? key ≠ some (.array items) := by
  intro found
  obtain ⟨_, text⟩ := read.entry (Object.mem_of_get? found) (by simp [owns, owner])
  cases text

end Scope

namespace Direct

theorem get?_scopedFilters (scope : Scope) (filters : Filters) (key : String) :
    (scopedFilters scope filters).get? key = (scope.filters.get? key).or (filters.get? key) :=
  NameMap.get?_insertAll (NameMap.insertAll_spec scope.conditions .empty .nil).1 filters key

end Direct

theorem matchesValue_string {actual : Option Json} {name : String}
    (matched : matchesValue actual (.string name) = true)
    (plain : ∀ items, actual ≠ some (.array items)) : actual = some (.string name) := by
  cases actual with
  | none => cases matched
  | some v =>
    cases v with
    | array items => exact absurd rfl (plain items)
    | string text =>
      have same : (text == name) = true := matched
      rw [eq_of_beq same]
    | null | bool _ | number _ | object _ => cases matched

namespace Filters

theorem judged_of_get? {filters : Filters} {cs : List Condition} {payload : Object}
    (parsed : filters.conditions = .ok cs) (passed : Condition.allJudged cs payload = .ok true)
    {key : String} {v : Json} (entry : filters.get? key = some v) :
    ∃ test, Condition.parseTest key v = .ok test ∧
      test.judged (payload.getPath? (Path.ofText key)) = .ok true := by
  obtain ⟨c, member, read⟩ := Fallible.exists_mem_of_mapM parsed (NameMap.mem_of_lookup entry)
  obtain ⟨rfl, test⟩ := Condition.parse_eq_ok read
  exact ⟨c.test, test, Condition.allJudged_eq_true.mp passed c member⟩

end Filters

namespace Scope

theorem covers_of_passed {s : Scope} {filters : Filters} {cs : List Condition}
    (parsed : filters.conditions = .ok cs)
    (own : ∀ key v, s.filters.get? key = some v → filters.get? key = some v)
    {o : Object} (passed : Condition.allJudged cs o = .ok true) {p : Payload}
    (read : Payload.ofObject o = .ok p) : s.Covers o := by
  intro key name owner named
  have known := key_of_mem_owners owner
  have entry := own key _ (get?_filters_owner owner named)
  obtain ⟨test, value, judged⟩ := Filters.judged_of_get? parsed passed entry
  obtain rfl : Test.equals (.string name) = test := Except.ok.inj value
  have part : Path.IsPart key := (by decide : ∀ key ∈ keys, Path.IsPart key) key known
  rw [Object.getPath?_isPart o part] at judged
  have matched : matchesValue (o.get? key) (.string name) = true := Except.ok.inj judged
  exact matchesValue_string matched
    ((Payload.ofObject_eq_ok_iff.mp read).scope.not_array known)

end Scope

theorem Category.mem_of_passed {filters : Filters} {cs : List Condition}
    {categories : List Category}
    (parsed : filters.conditions = .ok cs)
    (entry : filters.get? "category" =
      some (.object [("in", .array (categories.map (·.toJson)))]))
    {o : Object} (passed : Condition.allJudged cs o = .ok true) {p : Payload}
    (read : Payload.ofObject o = .ok p) : p.category ∈ categories := by
  obtain ⟨test, value, judged⟩ := Filters.judged_of_get? parsed passed entry
  obtain rfl : Test.oneOf (categories.map (·.toJson)) = test := Except.ok.inj value
  rw [Object.getPath?_isPart o (by decide)] at judged
  have matched := Except.ok.inj judged
  rw [List.any_map, List.any_eq_true] at matched
  obtain ⟨c, asked, named⟩ := matched
  have decoded := (Payload.ofObject_eq_ok_iff.mp read).category
  have plain : ∀ items, o.get? "category" ≠ some (.array items) := by
    intro items found
    rw [Fields.get, found] at decoded
    cases decoded
  have found : o.get? "category" = some c.toJson := matchesValue_string named plain
  rw [Fields.get, found, Option.getD_some, Payload.decode_category] at decoded
  exact Except.ok.inj decoded ▸ asked

theorem MemoryItem.get?_category (m : StoredMemory) :
    (ofStored m).metadata.get? "category" = some m.payload.category.toJson := by
  unfold ofStored
  cases m.payload.expiresAt with
  | none => exact Object.get?_insert_self _ _ _
  | some time =>
    exact (Object.get?_insert_of_ne _ _ (by decide)).trans (Object.get?_insert_self _ _ _)

/-- The item was read from a stored document whose payload names every owner of the scope. -/
def MemoryItem.StoredUnder (item : MemoryItem) (scope : Scope) (documents : List Document) : Prop :=
  ∃ d ∈ documents, ∃ score m payload, StoredMemory.ofDocument score d = .ok m ∧
    item = .ofStored m ∧ d.get? payloadKey = some (.object payload) ∧ scope.Covers payload

namespace Direct

variable {v : VectorStore} {embedder : Embedder} {scope : Scope} {w w' : World Database}

theorem run_search_eq_ok {query : String} {limit : Nat} {filters : Filters}
    {items : List MemoryItem}
    (found : Task.run (search v embedder query scope limit filters) w = (.ok items, w')) :
    ∃ cs, (scopedFilters scope filters).conditions = .ok cs ∧ ∀ item ∈ items,
      ∃ d ∈ w'.store.documents v.collection, ∃ score m payload,
        StoredMemory.ofDocument score d = .ok m ∧ item = .ofStored m ∧
        d.get? payloadKey = some (.object payload) ∧
        Payload.ofObject payload = .ok m.payload ∧ Condition.allJudged cs payload = .ok true := by
  obtain ⟨vector, w₁, embedded, found⟩ := Task.run_bind_eq_ok found
  obtain ⟨-, rfl⟩ := Prod.mk.inj embedded
  obtain ⟨ms, w₂, searched, found⟩ := Task.run_bind_eq_ok found
  obtain ⟨value, rfl⟩ := Prod.mk.inj found
  obtain rfl := Except.ok.inj value
  obtain ⟨filter, kind, rows, written, kept, ran, read⟩ := VectorStore.run_search_eq_ok searched
  obtain ⟨cs, parsed, -⟩ := Fallible.bind_eq_ok.mp written
  refine ⟨cs, parsed, fun item member => ?_⟩
  obtain ⟨m, among, rfl⟩ := List.mem_map.mp member
  obtain ⟨out, listed, decoded⟩ := VectorStore.mem_of_hits read among
  obtain ⟨row, stored, rfl, satisfied⟩ := Pipeline.mem_of_run_similarity ran listed
  rw [StoredMemory.ofRow_hit] at decoded
  obtain ⟨payload, lies, value, -⟩ := StoredMemory.ofDocument_eq_ok_iff.mp decoded
  refine ⟨row.document, stored, _, m, payload, decoded, rfl, lies, value, ?_⟩
  have predicate : (scopedFilters scope filters).predicate Place.searched.base =
      .ok (filter.getD []) := Fallible.bind_eq_ok.mpr ⟨filter, written, rfl⟩
  rw [← Place.satisfies_predicate
    ((Place.shows_of_get? lies).within (SimilarityQuery.get?_hit_document kind row)) parsed
    predicate]
  exact satisfied

theorem scope_wins (scope : Scope) (filters : Filters) (key : String) (condition : Json)
    (entry : scope.filters.get? key = some condition) :
    (scopedFilters scope filters).get? key = some condition := by
  rw [get?_scopedFilters, entry]
  rfl

theorem search_within_scope {query : String} {limit : Nat} {filters : Filters}
    {items : List MemoryItem}
    (found : Task.run (search v embedder query scope limit filters) w = (.ok items, w')) :
    ∀ item ∈ items, item.StoredUnder scope (w'.store.documents v.collection) := by
  obtain ⟨cs, parsed, each⟩ := run_search_eq_ok found
  intro item member
  obtain ⟨d, stored, score, m, payload, read, made, lies, value, passed⟩ := each item member
  exact ⟨d, stored, score, m, payload, read, made, lies,
    Scope.covers_of_passed parsed (scope_wins scope filters) passed value⟩

theorem getAll_within_scope {limit : Nat} {items : List MemoryItem}
    (found : Task.run (getAll v scope limit) w = (.ok items, w')) :
    ∀ item ∈ items, item.StoredUnder scope (w'.store.documents v.collection) := by
  obtain ⟨ms, w₁, listed, found⟩ := Task.run_bind_eq_ok found
  obtain ⟨value, rfl⟩ := Prod.mk.inj found
  obtain rfl := Except.ok.inj value
  obtain ⟨filter, written, -, each⟩ := VectorStore.run_list_eq_ok listed
  obtain ⟨filter?, parsed?, -⟩ := Fallible.bind_eq_ok.mp written
  obtain ⟨cs, parsed, -⟩ := Fallible.bind_eq_ok.mp parsed?
  intro item member
  obtain ⟨m, among, rfl⟩ := List.mem_map.mp member
  obtain ⟨d, stored, satisfied, read⟩ := each m among
  obtain ⟨payload, lies, value, -⟩ := StoredMemory.ofDocument_eq_ok_iff.mp read
  rw [Place.satisfies_predicate (Place.shows_of_get? lies) parsed written] at satisfied
  exact ⟨d, stored, none, m, payload, read, rfl, lies,
    Scope.covers_of_passed parsed (fun _ _ entry => entry) satisfied value⟩

theorem category_of_search {query : String} {limit : Nat} {categories : List Category}
    {items : List MemoryItem}
    (found : Task.run (search v embedder query scope limit
      (Service.categoryFilters (some categories))) w = (.ok items, w')) :
    ∀ item ∈ items, ∃ c ∈ categories, item.metadata.get? "category" = some c.toJson := by
  obtain ⟨cs, parsed, each⟩ := run_search_eq_ok found
  have entry : (scopedFilters scope (Service.categoryFilters (some categories))).get? "category" =
      some (.object [("in", .array (categories.map (·.toJson)))]) := by
    rw [get?_scopedFilters, Scope.get?_filters_other scope (by decide)]
    rfl
  intro item member
  obtain ⟨d, -, score, m, payload, -, rfl, -, value, passed⟩ := each item member
  exact ⟨m.payload.category, Category.mem_of_passed parsed entry passed value,
    MemoryItem.get?_category m⟩

theorem run_serviceSearch_eq_ok {lifetime : Int} {coordinator : Coordinator} {now : Int}
    {r : SearchRequest} {items : List MemoryItem}
    (found : Task.run (Service.search ⟨engine v embedder, lifetime, coordinator⟩ now r) w =
      (.ok items, w')) :
    ∃ all, Task.run (search v embedder r.query r.scope r.limit
      (Service.categoryFilters r.categories)) w = (.ok all, w') ∧ ∀ item ∈ items, item ∈ all := by
  obtain ⟨_, w₁, valid, found⟩ := Task.run_bind_eq_ok found
  obtain ⟨-, rfl⟩ := Prod.mk.inj valid
  obtain ⟨all, w₂, searched, found⟩ := Task.run_bind_eq_ok found
  obtain ⟨value, rfl⟩ := Prod.mk.inj found
  obtain rfl := Except.ok.inj value
  exact ⟨all, searched, fun item member => (List.mem_filter.mp member).1⟩

/-- Whatever the store holds and whatever filters a caller adds, an engine returns only memories of
the scope it is asked for, and a service only those of the categories it is asked for. -/
theorem reads_within_scope (v : VectorStore) (embedder : Embedder) (lifetime : Int)
    (coordinator : Coordinator) (w w' : World Database) (items : List MemoryItem) :
    (∀ scope query limit filters,
        Task.run (search v embedder query scope limit filters) w = (.ok items, w') →
        ∀ item ∈ items, item.StoredUnder scope (w'.store.documents v.collection)) ∧
      (∀ scope limit, Task.run (getAll v scope limit) w = (.ok items, w') →
        ∀ item ∈ items, item.StoredUnder scope (w'.store.documents v.collection)) ∧
      ∀ now r categories, r.categories = some categories →
        Task.run (Service.search ⟨engine v embedder, lifetime, coordinator⟩ now r) w =
          (.ok items, w') →
        ∀ item ∈ items, item.StoredUnder r.scope (w'.store.documents v.collection) ∧
          ∃ c ∈ categories, item.metadata.get? "category" = some c.toJson := by
  refine ⟨fun scope query limit filters found => search_within_scope found,
    fun scope limit found => getAll_within_scope found, ?_⟩
  intro now r categories asked found item member
  obtain ⟨all, searched, among⟩ := run_serviceSearch_eq_ok found
  refine ⟨search_within_scope searched item (among item member), ?_⟩
  rw [asked] at searched
  exact category_of_search searched item (among item member)

/-- A memory of one user and a memory of another. -/
def twoUsers : World Database where
  store :=
    { collections := .ofList [("memories",
        ⟨[Record.toDocument ⟨"a", [.ofInt 1], .new "t" .fact ⟨some "u", none, none⟩⟩,
          Record.toDocument ⟨"b", [.ofInt 1], .new "t" .fact ⟨some "v", none, none⟩⟩],
          [(IndexDescriptor.forCollection "memories" .diskann 1).spec]⟩)]
      log := []
      offline := false
      issued := 0 }
  verdicts := .empty

theorem own_memory_found :
    ∃ w₁ w₂ w₃ found listed asked,
      Task.run (search ⟨⟨"memories", 1, .diskann, 0, 50⟩⟩ (.ofLetters 1) "t"
          ⟨some "u", none, none⟩ 10
          (.ofObject [("user_id", .object [("eq", .object [("$exists", .bool true)])])])) twoUsers =
        (.ok found, w₁) ∧
      Task.run (getAll ⟨⟨"memories", 1, .diskann, 0, 50⟩⟩ ⟨some "u", none, none⟩ 10) twoUsers =
        (.ok listed, w₂) ∧
      Task.run (Service.search
          ⟨engine ⟨⟨"memories", 1, .diskann, 0, 50⟩⟩ (.ofLetters 1), 0, ⟨50, none⟩⟩ 0
          ⟨⟨some "u", none, none⟩, "t", some [.fact], 10⟩) twoUsers = (.ok asked, w₃) ∧
      found.map (·.id) = ["a"] ∧ listed.map (·.id) = ["a"] ∧ asked.map (·.id) = ["a"] ∧
      (∀ item ∈ found,
        item.StoredUnder ⟨some "u", none, none⟩ (w₁.store.documents "memories")) ∧
      (∀ item ∈ listed,
        item.StoredUnder ⟨some "u", none, none⟩ (w₂.store.documents "memories")) ∧
      ∀ item ∈ asked,
        item.StoredUnder ⟨some "u", none, none⟩ (w₃.store.documents "memories") ∧
          ∃ c ∈ [Category.fact], item.metadata.get? "category" = some c.toJson := by
  have searched : ∃ found w₁,
      Task.run (search ⟨⟨"memories", 1, .diskann, 0, 50⟩⟩ (.ofLetters 1) "t"
          ⟨some "u", none, none⟩ 10
          (.ofObject [("user_id", .object [("eq", .object [("$exists", .bool true)])])])) twoUsers =
        (.ok found, w₁) ∧ found.map (·.id) = ["a"] := Task.run_ok_of_map (by decide +kernel)
  have all : ∃ listed w₂,
      Task.run (getAll ⟨⟨"memories", 1, .diskann, 0, 50⟩⟩ ⟨some "u", none, none⟩ 10) twoUsers =
        (.ok listed, w₂) ∧ listed.map (·.id) = ["a"] := Task.run_ok_of_map (by decide +kernel)
  have filed : ∃ asked w₃,
      Task.run (Service.search
          ⟨engine ⟨⟨"memories", 1, .diskann, 0, 50⟩⟩ (.ofLetters 1), 0, ⟨50, none⟩⟩ 0
          ⟨⟨some "u", none, none⟩, "t", some [.fact], 10⟩) twoUsers =
        (.ok asked, w₃) ∧ asked.map (·.id) = ["a"] := Task.run_ok_of_map (by decide +kernel)
  obtain ⟨found, w₁, ranSearch, own⟩ := searched
  obtain ⟨listed, w₂, ranList, ownListed⟩ := all
  obtain ⟨asked, w₃, ranService, ownAsked⟩ := filed
  exact ⟨w₁, w₂, w₃, found, listed, asked, ranSearch, ranList, ranService, own, ownListed, ownAsked,
    (reads_within_scope _ _ 0 ⟨50, none⟩ _ w₁ found).1 _ _ _ _ ranSearch,
    (reads_within_scope _ (.ofLetters 1) 0 ⟨50, none⟩ _ w₂ listed).2.1 _ _ ranList,
    (reads_within_scope _ _ _ _ _ w₃ asked).2.2 _ _ [.fact] rfl ranService⟩

end Direct

end MemoryBank
