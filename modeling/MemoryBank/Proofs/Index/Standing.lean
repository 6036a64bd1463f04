import MemoryBank.Proofs.Index.Searchable
import MemoryBank.Proofs.Program.Exchanges
import MemoryBank.Proofs.Store.Identity
import MemoryBank.Proofs.Store.Places

set_option autoImplicit false

/-!
What one adapter remembers about the indexes of an empty store that it alone writes to: a verdict
stands for exactly the collections that are there, and each of them has the one index that the
verdict tells of.
-/

namespace MemoryBank

theorem IndexDescriptor.ofSpec?_spec {d : IndexDescriptor} (word : d.dimensions < pow2 32) :
    ObservedIndex.ofSpec? (.object d.spec) =
      some ⟨d.name, d.kind.storeName, some d.dimensions, some d.metric.storeName⟩ := by
  have p32 : pow2 32 = 4294967296 := rfl
  have p64 : pow2 64 = 18446744073709551616 := rfl
  have b32 : Word.bound32 = 4294967296 := rfl
  have small : (d.dimensions : Int) < Word.bound32 := by omega
  have read : (Json.ofNat d.dimensions).nat? = some d.dimensions :=
    Json.nat?_ofNat.mpr ⟨by omega, rfl⟩
  have options : IndexSpec.field? (some (.object d.spec)) vectorOptionsKey =
      d.spec.get? vectorOptionsKey := rfl
  have sized : (IndexSpec.field? (IndexSpec.field? (some (.object d.spec)) vectorOptionsKey)
      "dimensions").bind (·.nat?) = some d.dimensions := by
    rw [options, d.dimensions_spec, Option.bind_some, read]
  have metric : IndexSpec.field? (d.spec.get? vectorOptionsKey) "similarity" =
      some (.string d.metric.storeName) := by
    obtain ⟨_, _, _, params⟩ := d
    cases params <;> rfl
  unfold ObservedIndex.ofSpec?
  simp only
  rw [if_pos (show (IndexSpec.field? (IndexSpec.field? (some (.object d.spec)) "key")
    vectorPath).any IndexSpec.isMark = true from (IndexSpec.describes_spec d).marked)]
  simp only [sized, if_pos small]
  rw [options, (IndexSpec.describes_spec d).named, metric]
  rfl

theorem Database.find?_perform_createCollection {db : Database} (online : db.offline = false)
    {name : String} {c : Collection} (found : db.find? name = some c) (other : String) :
    (DocumentStore.perform (.createCollection name) db).2.find? other = db.find? other := by
  rw [perform_of_online online]
  change ((db.collections.insert name (db.opened name)).get? other) = _
  rw [NameMap.get?_insert, opened, found]
  split
  · next here => exact here ▸ found.symm
  · rfl

/-- What a configuration whose settings are accepted is like. -/
theorem Config.settings_eq_ok {c : Config} {s : Settings} (valid : c.settings = .ok s) :
    IndexKind.ofText c.indexKind = .ok s.indexKind ∧
      s.collection = c.collection ∧ c.collection.isEmpty = false ∧
      s.dimensions = c.embeddingDims ∧ 0 < c.embeddingDims := by
  obtain ⟨kind, named, valid⟩ := Fallible.bind_eq_ok.mp valid
  simp only at valid
  split at valid
  · cases valid
  · next written =>
    split at valid
    · cases valid
    · next positive =>
      split at valid
      · cases valid
      · split at valid
        · cases valid
        · obtain rfl := Except.ok.inj valid
          refine ⟨named, rfl, ?_, rfl, Nat.pos_of_ne_zero positive⟩
          rw [Bool.eq_false_iff]
          intro empty
          rw [String.isEmpty_iff.mp empty] at written
          exact written rfl

theorem Config.dimensions_of_settings {c : Config} {s : Settings} (valid : c.settings = .ok s) :
    0 < s.dimensions ∧ s.dimensions = c.embeddingDims := by
  obtain ⟨-, -, -, same, positive⟩ := settings_eq_ok valid
  exact ⟨same ▸ positive, same⟩

/-- A command that makes an index goes through. -/
def Exchange.Granted (x : Exchange) : Prop := x.call.verb = createIndexesCommand → x.passed = true

namespace VectorStore

variable {v : VectorStore} {w : World Database} {name : String} {n : Nat}

theorem validate_descriptor (v : VectorStore) (name : String) (positive : 0 < n)
    (word : n < pow2 32) : IndexSpec.validate (v.descriptor name n).spec = .ok () := by
  rw [descriptor, IndexDescriptor.validate_forCollection name v.settings.indexKind word,
    if_neg (Nat.ne_of_gt positive)]

/-- The collection has been given one index by the adapter, and the verdict tells of it. -/
structure Stands (v : VectorStore) (name : String) (n : Nat) (w : World Database) : Prop where
  named : name.isEmpty = false
  word : n < pow2 32
  verdict : w.verdicts.get? name = some (.created (v.descriptor name n))
  indexes : w.store.indexes name = [(v.descriptor name n).spec]

/-- The collection has no index and no verdict, or the one index that the verdict tells of. -/
def Belongs (v : VectorStore) (name : String) (w : World Database) : Prop :=
  w.verdicts.get? name = none ∧ w.store.indexes name = [] ∨ ∃ n, v.Stands name n w

structure InStep (v : VectorStore) (w : World Database) : Prop where
  online : w.store.offline = false
  belongs : ∀ name, v.Belongs name w

theorem Stands.find? (stands : v.Stands name n w) :
    ∃ c, w.store.find? name = some c ∧ c.indexes = [(v.descriptor name n).spec] := by
  have indexes := stands.indexes
  rw [Database.indexes, Database.opened] at indexes
  cases found : w.store.find? name with
  | some c => exact ⟨c, rfl, by simpa [found] using indexes⟩
  | none =>
    rw [found] at indexes
    cases indexes

theorem Stands.reported (stands : v.Stands name n w) :
    (w.store.reported name).bind (·.dimensions) = some n := by
  rw [Database.reported, stands.indexes, List.findSome?_singleton,
    IndexDescriptor.ofSpec?_spec stands.word]
  rfl

theorem Belongs.of_same (belongs : v.Belongs name w) {w' : World Database}
    (verdict : w'.verdicts.get? name = w.verdicts.get? name)
    (indexes : w'.store.indexes name = w.store.indexes name) : v.Belongs name w' := by
  rcases belongs with bare | ⟨n, named, word, known, carries⟩
  · exact .inl (by rwa [verdict, indexes])
  · exact .inr ⟨n, named, word, verdict.trans known, indexes.trans carries⟩

theorem InStep.of_same (inStep : v.InStep w) {w' : World Database}
    (online : w'.store.offline = w.store.offline) (verdicts : w'.verdicts = w.verdicts)
    (indexes : ∀ name, w'.store.indexes name = w.store.indexes name) : v.InStep w' :=
  ⟨online.trans inStep.online, fun name =>
    (inStep.belongs name).of_same (by rw [verdicts]) (indexes name)⟩

theorem upholds_call {c : Call} (same : ∀ (db : Database) (name : String),
      (DocumentStore.perform c db).2.indexes name = db.indexes name)
    (verb : c.verb ≠ createIndexesCommand) : (Task.call c).Upholds v.InStep Exchange.Granted := by
  intro w inStep
  refine ⟨inStep.of_same (Database.perform_offline c w.store) rfl (same w.store), ?_⟩
  simp [Exchange.Granted, verb]

theorem granted_inspect (name : String) (w : World Database) :
    ∀ x ∈ Task.exchanges (Upkeep.inspect name) w, x.Granted := by
  obtain ⟨passed, inspected⟩ := Upkeep.exchanges_inspect name w
  rw [inspected, List.forall_mem_singleton, Exchange.Granted, Call.verb_command]
  exact fun makes => absurd makes (by decide)

theorem upholds_inspect (name : String) :
    (Upkeep.inspect name).Upholds v.InStep Exchange.Granted := by
  intro w inStep
  refine ⟨?_, granted_inspect name w⟩
  rw [Upkeep.run_inspect_online inStep.online]
  exact inStep.of_same rfl rfl fun _ => rfl

theorem InStep.put (inStep : v.InStep w) (named : name.isEmpty = false) (word : n < pow2 32)
    (log : List LogEntry) (ds : List Document) :
    v.InStep ⟨Database.put { w.store with log := log } name ⟨ds, [(v.descriptor name n).spec]⟩,
      w.verdicts.insert name (.created (v.descriptor name n))⟩ := by
  refine ⟨inStep.online, fun other => ?_⟩
  have indexes : (Database.put { w.store with log := log } name
      ⟨ds, [(v.descriptor name n).spec]⟩).indexes other =
        if other = name then [(v.descriptor name n).spec] else w.store.indexes other :=
    Database.indexes_put _ _ _ _
  by_cases here : other = name
  · subst here
    exact .inr ⟨n, named, word, by simp, indexes.trans (if_pos rfl)⟩
  · exact (inStep.belongs other).of_same (by simp [here]) (indexes.trans (if_neg here))

theorem granted_ensure_bare (inStep : v.InStep w) (unknown : w.verdicts.get? name = none)
    (bare : w.store.indexes name = []) (positive : 0 < n) (word : n < pow2 32) :
    ∀ x ∈ Task.exchanges (Upkeep.ensure name (v.descriptor name n)) w, x.Granted := by
  have unseen : w.store.reported name = none := by
    rw [Database.reported, bare]
    rfl
  cases named : name.isEmpty with
  | true =>
    rw [Upkeep.exchanges_ensure_of_none unknown, Upkeep.run_inspect_online inStep.online, named]
    simpa using granted_inspect name w
  | false =>
    obtain ⟨passed, exchanged⟩ := Upkeep.exchanges_ensure_unseen inStep.online unknown unseen named
      (v.descriptor name n)
    obtain ⟨log, reply, created⟩ := Upkeep.run_createCommand (w := w.looked name) inStep.online
      named bare (v.descriptor name n)
    rw [validate_descriptor v name positive word, Task.run_call] at created
    rw [exchanged, List.forall_mem_cons, List.forall_mem_singleton]
    refine ⟨fun makes => ?_, fun _ => congrArg (·.toOption.isSome) (congrArg Prod.fst created)⟩
    rw [Call.verb_command] at makes
    exact absurd makes (by decide)

theorem upholds_ensure (name : String) (positive : 0 < n) (word : n < pow2 32) :
    (Upkeep.ensure name (v.descriptor name n)).Upholds v.InStep Exchange.Granted := by
  intro w inStep
  rcases inStep.belongs name with ⟨unknown, bare⟩ | ⟨m, stands⟩
  · refine ⟨?_, granted_ensure_bare inStep unknown bare positive word⟩
    obtain ⟨log, ensured⟩ := Upkeep.run_ensure_bare inStep.online unknown bare (v.descriptor name n)
    rw [ensured, Upkeep.readied, validate_descriptor v name positive word]
    cases named : name.isEmpty with
    | true => exact inStep.of_same rfl rfl fun _ => rfl
    | false => exact inStep.put named word log _
  · rw [run_ensure_of_standing stands.verdict, Upkeep.exchanges_ensure_of_standing stands.verdict]
    exact ⟨inStep, by simp⟩

theorem run_deleteCollection (online : w.store.offline = false) (name : String) :
    Task.run (v.deleteCollection name) w = (.ok (),
      ⟨{ Database.arrive (.dropCollection name) w.store with
          collections := w.store.collections.erase name }, w.verdicts.erase name⟩) := by
  rw [deleteCollection, Task.run_bind, Task.run_call, Database.perform_of_online online]
  rfl

theorem upholds_deleteCollection (name : String) :
    (v.deleteCollection name).Upholds v.InStep Exchange.Granted := by
  intro w inStep
  have called := Task.exchanges_call (.dropCollection name) w
  constructor
  · rw [run_deleteCollection inStep.online]
    refine ⟨inStep.online, fun other => ?_⟩
    by_cases here : other = name
    · exact .inl (by simp [Database.indexes, Database.opened, Database.find?, here,
        Collection.empty])
    · exact (inStep.belongs other).of_same (by simp [here])
        (by simp [Database.indexes, Database.opened, Database.find?, here])
  · rw [deleteCollection, Task.exchanges_bind, called]
    rcases Task.run (Task.call (.dropCollection name)) w with ⟨_ | _, w'⟩ <;>
      simp [Exchange.Granted, Call.verb, createIndexesCommand]

end VectorStore

namespace Operation

variable {v : VectorStore} {o : Operation}

/-- The dimensions an operation names fit a word. -/
def Fits : Operation → Prop
  | createCollection _ dimensions => dimensions < pow2 32
  | _ => True

theorem Fits.ensures (fits : o.Fits) (positive : 0 < v.settings.dimensions)
    (word : v.settings.dimensions < pow2 32) {name : String} {n : Nat}
    (ensures : o.Ensures v name n) : 0 < n ∧ n < pow2 32 := by
  cases o with
  | createCollection _ _ =>
    obtain ⟨rfl, rfl, some⟩ := ensures
    exact ⟨Nat.pos_of_ne_zero some, fits⟩
  | ensureIndex | insert _ _ _ | search _ _ _ | reset =>
    obtain ⟨rfl, rfl⟩ := ensures
    exact ⟨positive, word⟩
  | _ => cases ensures

theorem upholds_task (positive : 0 < v.settings.dimensions) (word : v.settings.dimensions < pow2 32)
    (fits : o.Fits) : (o.task v).Upholds v.InStep Exchange.Granted := by
  refine o.task_of_parts (Task.closed_upholds _ _) v VectorStore.upholds_inspect ?_ ?_ ?_
  · intro name n ensures
    obtain ⟨positive, word⟩ := fits.ensures positive word ensures
    exact VectorStore.upholds_ensure name positive word
  · exact fun name _ => VectorStore.upholds_deleteCollection name
  · exact fun c makes => VectorStore.upholds_call (indexes_perform_of_makes makes)
      (verb_of_makes makes)

end Operation

namespace VectorStore

variable {v : VectorStore} {w : World Database} {name : String} {n : Nat}

/-- In step, and a collection is there exactly if there is a verdict on it. -/
structure AtRest (v : VectorStore) (w : World Database) : Prop extends v.InStep w where
  pairs : ∀ name, (w.verdicts.get? name).isSome = (w.store.find? name).isSome

theorem AtRest.of_same (atRest : v.AtRest w) {w' : World Database}
    (online : w'.store.offline = w.store.offline) (verdicts : w'.verdicts = w.verdicts)
    (catalogues : ∀ name, w'.store.catalogue? name = w.store.catalogue? name) : v.AtRest w' := by
  refine ⟨atRest.toInStep.of_same online verdicts fun name => ?_, fun name => ?_⟩
  · rw [Database.indexes_eq, catalogues, Database.indexes_eq]
  · rw [verdicts, atRest.pairs, ← Database.isSome_catalogue?, ← catalogues,
      Database.isSome_catalogue?]

/-- Seeing to the index of a collection leaves it paired, whatever was there before. -/
theorem InStep.ensure (inStep : v.InStep w) (name : String) (positive : 0 < n)
    (word : n < pow2 32)
    (pairs : ∀ other, other ≠ name ∨ name.isEmpty = true →
      (w.verdicts.get? other).isSome = (w.store.find? other).isSome) :
    v.AtRest (Task.run (Upkeep.ensure name (v.descriptor name n)) w).2 := by
  have after := (upholds_ensure name positive word w inStep).1
  refine ⟨after, fun other => ?_⟩
  rcases inStep.belongs name with ⟨unknown, bare⟩ | ⟨m, stands⟩
  · obtain ⟨log, ensured⟩ := Upkeep.run_ensure_bare inStep.online unknown bare (v.descriptor name n)
    rw [ensured, Upkeep.readied, validate_descriptor v name positive word]
    cases named : name.isEmpty with
    | true => exact pairs other (.inr named)
    | false =>
      simp only [Bool.false_eq_true, if_false, NameMap.get?_insert, Database.find?, Database.put]
      split
      · rfl
      · next elsewhere => exact pairs other (.inl elsewhere)
  · rw [run_ensure_of_standing stands.verdict]
    by_cases here : other = name
    · obtain ⟨c, found, -⟩ := stands.find?
      rw [here, stands.verdict, found]
      rfl
    · exact pairs other (.inl here)

theorem AtRest.ensure (atRest : v.AtRest w) (name : String) (positive : 0 < n)
    (word : n < pow2 32) :
    v.AtRest (Task.run (Upkeep.ensure name (v.descriptor name n)) w).2 :=
  atRest.toInStep.ensure name positive word fun other _ => atRest.pairs other

theorem AtRest.deleteCollection (atRest : v.AtRest w) (name : String) :
    v.AtRest (Task.run (v.deleteCollection name) w).2 := by
  refine ⟨(upholds_deleteCollection name w atRest.toInStep).1, fun other => ?_⟩
  rw [run_deleteCollection atRest.online]
  simp only [NameMap.get?_erase, Database.find?]
  split
  · rfl
  · exact atRest.pairs other

theorem run_call_createCollection (online : w.store.offline = false) (name : String) :
    Task.run (Task.call (.createCollection name)) w =
      (.ok (), { w with store := (DocumentStore.perform (.createCollection name) w.store).2 }) := by
  rw [Task.run_call, Database.perform_of_online online]
  rfl

theorem run_createCollection_refused (online : w.store.offline = false) (nonzero : n ≠ 0)
    (named : name.isEmpty = false) {indexed : Nat}
    (seen : (w.store.reported name).bind (·.dimensions) = some indexed) (differs : indexed ≠ n) :
    Task.run (v.createCollection name n) w =
      (.error (.validation (.otherDimensions name indexed n)), w.looked name) := by
  rw [createCollection, if_neg nonzero, Task.run_bind, Upkeep.run_inspect_online online, named]
  simp only [Bool.false_eq_true, if_false, seen, if_pos differs]
  rfl

theorem run_createCollection_ready (online : w.store.offline = false) (nonzero : n ≠ 0)
    (named : name.isEmpty = false)
    (agrees : ∀ indexed, (w.store.reported name).bind (·.dimensions) = some indexed →
      indexed = n) :
    Task.run (v.createCollection name n) w = Task.run (do
        Task.call (.createCollection name)
        let _ ← Upkeep.ensure name (v.descriptor name n)) (w.looked name) := by
  rw [createCollection, if_neg nonzero, Task.run_bind, Upkeep.run_inspect_online online, named]
  simp only [Bool.false_eq_true, if_false]
  cases seen : (w.store.reported name).bind (·.dimensions) with
  | none => rfl
  | some indexed =>
    simp only [agrees indexed seen, ne_eq, not_true_eq_false, if_false]
    rfl

theorem AtRest.call_opens (atRest : v.AtRest w) {c : Call} (opens : c.opens name = true) :
    v.InStep { w with store := (DocumentStore.perform c w.store).2 } ∧
      ∀ other, other ≠ name ∨ (w.store.find? name).isSome = true → (w.verdicts.get? other).isSome =
        ((DocumentStore.perform c w.store).2.find? other).isSome := by
  have catalogues := Database.catalogue?_perform_of_opens atRest.online opens
  refine ⟨atRest.toInStep.of_same (Database.perform_offline c w.store) rfl fun other => ?_,
    fun other apart => ?_⟩
  · rw [Database.indexes_eq, catalogues, Database.indexes_eq w.store other]
    split
    · next here => rw [Database.indexes_eq, here]; rfl
    · rfl
  · rw [← Database.isSome_catalogue?, catalogues]
    split
    · next here =>
      rw [atRest.pairs, here, apart.resolve_left (not_not_intro here)]
      rfl
    · rw [Database.isSome_catalogue?, atRest.pairs]

theorem AtRest.createCollection (atRest : v.AtRest w) (name : String) (word : n < pow2 32) :
    v.AtRest (Task.run (v.createCollection name n) w).2 := by
  by_cases zero : n = 0
  · rw [VectorStore.createCollection, if_pos zero]
    exact atRest
  cases named : name.isEmpty with
  | true =>
    rw [VectorStore.createCollection, if_neg zero, Task.run_bind,
      Upkeep.run_inspect_online atRest.online, named]
    exact atRest.of_same rfl rfl fun _ => rfl
  | false =>
    have looked : v.AtRest (w.looked name) := atRest.of_same rfl rfl fun _ => rfl
    by_cases ready : ∀ indexed, (w.store.reported name).bind (·.dimensions) = some indexed →
        indexed = n
    · obtain ⟨inStep, pairs⟩ := looked.call_opens (c := .createCollection name)
        (beq_self_eq_true name)
      rw [run_createCollection_ready atRest.online zero named ready, Task.run_bind,
        run_call_createCollection looked.online]
      simp only [Task.run_discard]
      refine inStep.ensure name (Nat.pos_of_ne_zero zero) word fun other apart => ?_
      exact pairs other (.inl (apart.resolve_right (by simp [named])))
    · push Not at ready
      obtain ⟨indexed, seen, differs⟩ := ready
      rw [run_createCollection_refused atRest.online zero named seen differs]
      exact looked

theorem AtRest.insert (atRest : v.AtRest w) (positive : 0 < v.settings.dimensions)
    (word : v.settings.dimensions < pow2 32) (ids : List String) (vectors : List Embedding)
    (payloads : List Payload) : v.AtRest (Task.run (v.insert ids vectors payloads) w).2 := by
  unfold VectorStore.insert
  cases made : v.documents ids vectors payloads with
  | error cause => exact atRest
  | ok ds =>
    change v.AtRest (Task.run (if ds.isEmpty then pure () else do
      let _ ← v.ensureIndex
      let _ ← Task.call (.insert v.collection ds)) w).2
    split
    · exact atRest
    · have ensured := atRest.ensure v.collection positive word
      rw [Task.run_bind, VectorStore.ensureIndex]
      cases outcome : Task.run (Upkeep.ensure v.collection
          (v.descriptor v.collection v.settings.dimensions)) w with
      | mk r w' =>
        rw [outcome] at ensured
        cases r with
        | error cause => exact ensured
        | ok status =>
          -- the collection is there by now, so the call makes none
          have there : (w'.store.find? v.collection).isSome = true := by
            rw [← ensured.pairs, Upkeep.verdict_of_ensure outcome]
            rfl
          obtain ⟨inStep, pairs⟩ := ensured.call_opens (c := .insert v.collection ds)
            (beq_self_eq_true v.collection)
          simp only [Task.run_discard]
          exact ⟨inStep, fun other => pairs other (.inr there)⟩

theorem AtRest.operation (atRest : v.AtRest w) (positive : 0 < v.settings.dimensions)
    (word : v.settings.dimensions < pow2 32) {o : Operation} (fits : o.Fits) :
    v.AtRest (Task.run (o.task v) w).2 := by
  have others (plain : ∀ c, o.Makes v c → c.plain = true) : (o.task v).Preserves v.AtRest := by
    refine o.task_of_parts (Task.closed_preserves _) v ?_ ?_ ?_ ?_
    · intro name w atRest
      rw [Upkeep.run_inspect_online atRest.online]
      exact atRest.of_same rfl rfl fun _ => rfl
    · intro name n ensures w atRest
      obtain ⟨positive, word⟩ := fits.ensures positive word ensures
      exact atRest.ensure name positive word
    · exact fun name _ w atRest => atRest.deleteCollection name
    · exact fun c makes w atRest => atRest.of_same (Database.perform_offline c w.store) rfl
        (Database.catalogue?_perform_of_plain (plain c makes) w.store)
  cases o with
  | createCollection name n => exact atRest.createCollection name fits
  | insert ids vectors payloads => exact atRest.insert positive word ids vectors payloads
  | reset =>
    exact Task.Preserves.bind (fun w atRest => atRest.deleteCollection v.collection)
      (fun _ w atRest => atRest.createCollection v.collection word) w atRest
  | search _ _ _ | list _ _ | update _ _ => exact others (fun c ⟨_, made⟩ => made ▸ rfl) w atRest
  | sweep now => exact others (fun c made => by rcases made with rfl | rfl <;> rfl) w atRest
  | _ => exact others (fun c made => by cases made <;> rfl) w atRest

theorem AtRest.createCollection_of_stands (atRest : v.AtRest w) (stands : v.Stands name n w)
    {wanted : Nat} (positive : 0 < wanted) :
    ∃ w', Task.run (v.createCollection name wanted) w =
        (if wanted = n then .ok () else .error (.validation (.otherDimensions name n wanted)), w') ∧
      w'.verdicts = w.verdicts ∧ ∀ other, w'.store.find? other = w.store.find? other := by
  have nonzero := Nat.ne_of_gt positive
  split
  · next same =>
    subst same
    have ready : ∀ indexed, (w.store.reported name).bind (·.dimensions) = .some indexed →
        indexed = wanted := by
      rw [stands.reported]
      exact fun indexed seen => (Option.some.inj seen).symm
    have ensured (db : Database) := run_ensure_of_standing (w := ⟨db, w.verdicts⟩) stands.verdict
      (v.descriptor name wanted)
    obtain ⟨c, found, -⟩ := stands.find?
    have looked : (w.looked name).store.offline = false := atRest.online
    refine ⟨⟨(DocumentStore.perform (.createCollection name) (w.looked name).store).2, w.verdicts⟩,
      ?_, rfl, Database.find?_perform_createCollection looked found⟩
    rw [run_createCollection_ready atRest.online nonzero stands.named ready, Task.run_bind,
      run_call_createCollection looked]
    simp only [Task.run_discard, World.verdicts_looked, ensured]
    rfl
  · next other =>
    exact ⟨_, run_createCollection_refused atRest.online nonzero stands.named stands.reported
      (Ne.symm other), rfl, fun _ => rfl⟩

def exchanges (v : VectorStore) : List Operation → World Database → List Exchange
  | [], _ => []
  | o :: rest, w => Task.exchanges (o.task v) w ++ v.exchanges rest (Task.run (o.task v) w).2

theorem atRest_start (v : VectorStore) : v.AtRest ⟨.empty, .empty⟩ :=
  ⟨⟨rfl, fun _ => .inl ⟨rfl, rfl⟩⟩, fun _ => rfl⟩

theorem AtRest.run (positive : 0 < v.settings.dimensions) (word : v.settings.dimensions < pow2 32)
    {ops : List Operation} (fits : ∀ o ∈ ops, o.Fits) (atRest : v.AtRest w) :
    v.AtRest (ops.foldl (fun w o => (Task.run (o.task v) w).2) w) ∧
      ∀ x ∈ v.exchanges ops w, x.Granted := by
  induction ops generalizing w with
  | nil => exact ⟨atRest, fun _ none => nomatch none⟩
  | cons o rest ih =>
    rw [List.forall_mem_cons] at fits
    obtain ⟨after, granted⟩ := ih fits.2 (atRest.operation positive word fits.1)
    exact ⟨after, List.forall_mem_append.mpr
      ⟨(Operation.upholds_task positive word fits.1 w atRest.toInStep).2, granted⟩⟩

/-- Whatever an adapter does on an empty store: it has a verdict on exactly the collections that are
there, each of them has the one index that its verdict tells of, and making it again is refused
exactly if other dimensions are asked for. No index that the adapter asks for is refused. -/
theorem verdict_iff_collection {config : Config} {v : VectorStore}
    (configured : VectorStore.ofConfig config = .ok v) (sized : config.embeddingDims < pow2 32)
    (ops : List Operation) (fits : ∀ o ∈ ops, o.Fits) :
    (∀ name, (((v.after ops).verdicts.get? name).isSome = true ↔
        ((v.after ops).store.find? name).isSome = true) ∧
      ∀ status, (v.after ops).verdicts.get? name = some status → ∃ c n,
        (v.after ops).store.find? name = some c ∧ status.dimensions = some n ∧
        c.indexes = [(v.descriptor name n).spec] ∧ status.effective = v.settings.indexKind ∧
        ∀ wanted, 0 < wanted → ∃ w, Task.run (v.createCollection name wanted) (v.after ops) =
            (if wanted = n then .ok ()
              else .error (.validation (.otherDimensions name n wanted)), w) ∧
          w.verdicts = (v.after ops).verdicts ∧
          ∀ other, w.store.find? other = (v.after ops).store.find? other) ∧
    ∀ x ∈ v.exchanges ops ⟨.empty, .empty⟩, x.call.verb = createIndexesCommand →
      x.passed = true := by
  obtain ⟨settings, valid, rfl⟩ := Fallible.map_eq_ok.mp configured
  obtain ⟨positive, same⟩ := Config.dimensions_of_settings valid
  obtain ⟨atRest, granted⟩ := (atRest_start ⟨settings⟩).run positive (same ▸ sized) fits
  refine ⟨fun name => ⟨Bool.eq_iff_iff.mp (atRest.pairs name), fun status known => ?_⟩, granted⟩
  rcases atRest.belongs name with ⟨unknown, -⟩ | ⟨n, stands⟩
  · cases unknown.symm.trans known
  · obtain ⟨c, found, carries⟩ := stands.find?
    obtain rfl := Option.some.inj (stands.verdict.symm.trans known)
    exact ⟨c, n, found, rfl, carries, IndexDescriptor.kind_forCollection .., fun wanted positive =>
      atRest.createCollection_of_stands stands positive⟩

/-- One collection is dropped and another stays. -/
def afterDrop : World Database :=
  after ⟨⟨"memories", 1, .diskann, 0, 50⟩⟩ [.ensureIndex, .createCollection "others" 5,
    .deleteCollection "memories"]

theorem others_stand_after_drop :
    VectorStore.ofConfig { Config.default with embeddingDims := 1 } =
        .ok ⟨⟨"memories", 1, .diskann, 0, 50⟩⟩ ∧
      (afterDrop.store.find? "memories").isSome = false ∧
      (afterDrop.store.find? "others").isSome = true ∧
      ∃ w, Task.run (createCollection ⟨⟨"memories", 1, .diskann, 0, 50⟩⟩ "others" 4) afterDrop =
        (.error (.validation (.otherDimensions "others" 5 4)), w) := by
  have configured : VectorStore.ofConfig { Config.default with embeddingDims := 1 } =
      .ok ⟨⟨"memories", 1, .diskann, 0, 50⟩⟩ := by rfl
  have standing : (afterDrop.verdicts.get? "others").map (·.dimensions) = some (some 5) := by
    decide +kernel
  obtain ⟨collections, -⟩ := verdict_iff_collection configured (by decide)
    [.ensureIndex, .createCollection "others" 5, .deleteCollection "memories"] (by
      simp [Operation.Fits, pow2])
  obtain ⟨status, known, five⟩ := Option.map_eq_some_iff.mp standing
  obtain ⟨c, n, found, sized, -, -, refused⟩ := (collections "others").2 status known
  obtain rfl := Option.some.inj (five.symm.trans sized)
  obtain ⟨w, ran, -⟩ := refused 4 (by decide)
  refine ⟨configured, ?_, ?_, w, ran⟩
  · refine Bool.eq_false_iff.mpr fun there => ?_
    have none : (afterDrop.verdicts.get? "memories").isSome = false := by decide +kernel
    exact Bool.false_ne_true (none.symm.trans ((collections "memories").1.mpr there))
  · exact (collections "others").1.mp (known ▸ rfl)

end VectorStore

end MemoryBank
