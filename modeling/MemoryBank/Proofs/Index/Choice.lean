import MemoryBank.Proofs.Index.Specs

set_option autoImplicit false

/-!
Which vector index of a catalogue is taken. A search takes the first there is, whatever its path;
an adapter takes the first whose key marks the vectors of memories. The two are the same exactly if
the first is on these vectors.
-/

namespace MemoryBank

namespace IndexSpec

/-- The key marks the vectors of memories. -/
def onVectors (spec : Document) : Bool := (field? (spec.get? "key") vectorPath).any isMark

/-- A valid spec whose key has no path twice. -/
structure Proper (spec : Document) : Prop where
  valid : validate spec = .ok ()
  distinct : ∀ key, spec.get? "key" = some (.object key) → (Object.keys key).Nodup

/-- The spec reads as this vector index. -/
structure ReadsAs (spec : Document) (index : VectorIndex) : Prop where
  path : vectorPath? spec = some index.path
  kind : ((field? (spec.get? vectorOptionsKey) "kind").bind (·.string?)).bind
    IndexKind.ofStoreName? = some index.kind
  dimensions : (field? (spec.get? vectorOptionsKey) "dimensions").bind (·.nat?) =
    some index.dimensions
  metric : ((field? (spec.get? vectorOptionsKey) "similarity").bind (·.string?)).bind
    Metric.ofStoreName? = some index.metric

theorem vectorIndex?_eq_some {spec : Document} {index : VectorIndex} :
    vectorIndex? spec = some index ↔ ReadsAs spec index := by
  have shape : vectorIndex? spec = (vectorPath? spec).bind fun path =>
      (((field? (spec.get? vectorOptionsKey) "kind").bind (·.string?)).bind
        IndexKind.ofStoreName?).bind fun kind =>
      ((field? (spec.get? vectorOptionsKey) "dimensions").bind (·.nat?)).bind fun dimensions =>
      (((field? (spec.get? vectorOptionsKey) "similarity").bind (·.string?)).bind
        Metric.ofStoreName?).bind fun metric => some ⟨path, kind, dimensions, metric⟩ := by
    simp only [vectorIndex?, Option.bind_eq_bind, Option.bind_assoc, Option.pure_def]
  rw [shape]
  constructor
  · intro read
    obtain ⟨path, marked, read⟩ := Option.bind_eq_some_iff.mp read
    obtain ⟨kind, named, read⟩ := Option.bind_eq_some_iff.mp read
    obtain ⟨n, sized, read⟩ := Option.bind_eq_some_iff.mp read
    obtain ⟨metric, measured, read⟩ := Option.bind_eq_some_iff.mp read
    obtain rfl := Option.some.inj read
    exact ⟨marked, named, sized, measured⟩
  · rintro ⟨marked, named, sized, measured⟩
    rw [marked, named, sized, measured]
    rfl

theorem sizes_of_validateOptions {options : Object} (valid : validateOptions options = .ok ()) :
    (∃ n, (options.get? "dimensions").bind (·.nat?) = some n) ∧
      ∃ metric, ((options.get? "similarity").bind (·.string?)).bind Metric.ofStoreName? =
        some metric := by
  unfold validateOptions at valid
  cases known : IndexKind.ofStoreName? (textOf options "kind") with
  | none =>
    rw [known] at valid
    cases valid
  | some kind =>
    simp only [known, Fallible.ok_bind] at valid
    split at valid
    · cases valid
    next positive =>
    split at valid
    · cases valid
    next named =>
    constructor
    · cases read : (options.get? "dimensions").bind (·.nat?) with
      | some n => exact ⟨n, rfl⟩
      | none => simp [isPositive, read] at positive
    · cases read : (options.get? "similarity").bind (·.string?) with
      | none => simp [textOf, read, Metric.ofStoreName?] at named
      | some text =>
        cases measured : Metric.ofStoreName? text with
        | none => simp [textOf, read, measured] at named
        | some metric => exact ⟨metric, measured⟩

/-- A valid spec with a mark in its key can be read as a vector index. -/
theorem exists_vectorIndex? {spec : Document} (valid : validate spec = .ok ()) {path : String}
    (marked : vectorPath? spec = some path) : ∃ index, vectorIndex? spec = some index := by
  obtain ⟨e, rest, keyed, described⟩ := validate_eq_ok valid
  have found : ((e :: rest).find? (isMark ·.2)).map (·.1) = some path := by
    unfold vectorPath? at marked
    rw [keyed] at marked
    exact marked
  obtain ⟨entry, first, -⟩ := Option.map_eq_some_iff.mp found
  have mark := List.find?_some first
  obtain ⟨options, given, checked⟩ := described (List.any_eq_true.mpr
    ⟨entry, List.mem_of_find?_eq_some first, mark⟩)
  obtain ⟨kind, named⟩ := kind_of_validateOptions checked
  obtain ⟨⟨n, sized⟩, metric, measured⟩ := sizes_of_validateOptions checked
  refine ⟨⟨path, kind, n, metric⟩, vectorIndex?_eq_some.mpr ⟨marked, ?_, ?_, ?_⟩⟩
  · rw [given, field?, named]
    exact IndexKind.ofStoreName?_storeName kind
  · rw [given, field?]
    exact sized
  · rw [given, field?]
    exact measured

theorem onVectors_iff {spec : Document} : onVectors spec = true ↔
    ∃ key v, spec.get? "key" = some (.object key) ∧ Object.get? key vectorPath = some v ∧
      isMark v = true := by
  rw [onVectors, Option.any_eq_true]
  constructor
  · rintro ⟨v, entry, mark⟩
    obtain ⟨key, keyed, entry⟩ := field?_eq_some.mp entry
    exact ⟨key, v, keyed, entry, mark⟩
  · rintro ⟨key, v, keyed, entry, mark⟩
    exact ⟨v, field?_eq_some.mpr ⟨key, keyed, entry⟩, mark⟩

theorem exists_vectorPath? {spec : Document} (marked : onVectors spec = true) :
    ∃ path, vectorPath? spec = some path := by
  obtain ⟨key, v, keyed, entry, mark⟩ := onVectors_iff.mp marked
  have some : (key.find? (isMark ·.2)).isSome = true :=
    List.find?_isSome.mpr ⟨(vectorPath, v), Object.mem_of_get? entry, mark⟩
  obtain ⟨first, found⟩ := Option.isSome_iff_exists.mp some
  refine ⟨first.1, ?_⟩
  rw [vectorPath?, keyed]
  exact congrArg (Option.map (·.1)) found

/-- Where the first path that a key marks is that of the vectors, the key marks the vectors. -/
theorem Proper.onVectors {spec : Document} (proper : Proper spec)
    (first : vectorPath? spec = some vectorPath) : onVectors spec = true := by
  unfold vectorPath? at first
  split at first
  · next key keyed =>
    obtain ⟨⟨path, v⟩, found, rfl⟩ := Option.map_eq_some_iff.mp first
    have mark := List.find?_some found
    exact onVectors_iff.mpr ⟨key, v, keyed,
      Object.get?_of_mem (proper.distinct key keyed) (List.mem_of_find?_eq_some found), mark⟩
  · cases first

end IndexSpec

namespace ObservedIndex

/-- What an adapter sees of a vector index is what a search takes it for. -/
theorem ofSpec?_eq {spec : Document} (marked : IndexSpec.onVectors spec = true)
    {index : VectorIndex} (read : IndexSpec.vectorIndex? spec = some index) :
    ∃ observed, ofSpec? (.object spec) = some observed ∧
      observed.kind = index.kind.storeName ∧
        ∀ n, observed.dimensions = some n → n = index.dimensions := by
  obtain ⟨-, named, sized, -⟩ := IndexSpec.vectorIndex?_eq_some.mp read
  obtain ⟨text, entry, known⟩ := Option.bind_eq_some_iff.mp named
  unfold ofSpec?
  simp only
  rw [if_pos (show (IndexSpec.field? (IndexSpec.field? (some (.object spec)) "key")
    vectorPath).any IndexSpec.isMark = true from marked)]
  refine ⟨_, rfl, ?_, fun n shown => ?_⟩
  · exact (congrArg (·.getD "") entry).trans (IndexKind.storeName_of_ofStoreName? known).symm
  · have options : IndexSpec.field? (some (.object spec)) vectorOptionsKey =
        spec.get? vectorOptionsKey := rfl
    simp only [options, sized] at shown
    split at shown
    · exact (Option.some.inj shown).symm
    · cases shown

theorem exists_ofSpec? {spec : Document} (marked : IndexSpec.onVectors spec = true) :
    ∃ observed, ofSpec? (.object spec) = some observed := by
  unfold ofSpec?
  simp only
  rw [if_pos (show (IndexSpec.field? (IndexSpec.field? (some (.object spec)) "key")
    vectorPath).any IndexSpec.isMark = true from marked)]
  exact ⟨_, rfl⟩

theorem ofSpec?_eq_none {spec : Document} (unmarked : IndexSpec.onVectors spec = false) :
    ofSpec? (.object spec) = none := by
  unfold ofSpec?
  simp only
  rw [if_neg]
  exact fun marked => Bool.false_ne_true (unmarked.symm.trans marked)

end ObservedIndex

namespace Catalogue

/-- The index that an adapter takes. -/
def chosen? (catalogue : List Document) : Option Document := catalogue.find? IndexSpec.onVectors

theorem chosen?_append {catalogue : List Document} {spec : Document}
    (chosen : chosen? catalogue = some spec) (added : List Document) :
    chosen? (catalogue ++ added) = some spec := by
  rw [chosen?, List.find?_append, ← chosen?, chosen, Option.some_or]

/-- A search takes the index that the adapter takes, or one that is not on the vectors. -/
theorem searched?_eq_some {catalogue : List Document}
    (proper : ∀ spec ∈ catalogue, IndexSpec.Proper spec) {spec : Document}
    (chosen : chosen? catalogue = some spec) :
    ∃ index, searched? catalogue = some index ∧
      (index.path = vectorPath → IndexSpec.vectorIndex? spec = some index) := by
  induction catalogue with
  | nil => cases chosen
  | cons first rest ih =>
    rw [List.forall_mem_cons] at proper
    rw [searched?, List.findSome?_cons]
    cases read : IndexSpec.vectorIndex? first with
    | some index =>
      refine ⟨index, rfl, fun path => ?_⟩
      -- the first index that is marked at all is then marked on the vectors
      have marked := proper.1.onVectors
        (path ▸ (IndexSpec.vectorIndex?_eq_some.mp read).path)
      rw [chosen?, List.find?_cons, marked] at chosen
      exact Option.some.inj chosen ▸ read
    | none =>
      have unmarked : IndexSpec.onVectors first = false := by
        refine Bool.eq_false_iff.mpr fun marked => ?_
        obtain ⟨path, entry⟩ := IndexSpec.exists_vectorPath? marked
        obtain ⟨index, reads⟩ := IndexSpec.exists_vectorIndex? proper.1.valid entry
        cases read.symm.trans reads
      rw [chosen?, List.find?_cons, unmarked] at chosen
      exact ih proper.2 chosen

end Catalogue

end MemoryBank
