import MemoryBank.Proofs.Index.Choice
import MemoryBank.Proofs.Store.Adapter
import MemoryBank.Proofs.Store.Catalogues
import MemoryBank.Proofs.Store.Searching

set_option autoImplicit false

/-!
Seeing to an index, call by call, on a store that can be reached: what is observed of the collection
and what the command that makes an index asks for.
-/

namespace MemoryBank

namespace IndexDescriptor

def options (d : IndexDescriptor) : Object :=
  [("kind", .string d.kind.storeName)] ++ d.buildOptions ++
    [("similarity", .string d.metric.storeName), ("dimensions", .ofNat d.dimensions)]

theorem validate_spec {d : IndexDescriptor} (named : d.name.isEmpty = false) :
    IndexSpec.validate d.spec = IndexSpec.validateOptions d.options := by
  have name : (d.spec.get? "name").bind (·.string?) = some d.name := rfl
  unfold IndexSpec.validate
  rw [name, Option.all_some, named]
  rfl

/-- All there can be wrong with the index of a collection is that it has no dimensions. -/
theorem validate_forCollection (collection : String) (kind : IndexKind) {dimensions : Nat}
    (word : dimensions < pow2 32) :
    IndexSpec.validate (forCollection collection kind dimensions).spec =
      if dimensions = 0 then .error (.store .badDimensions) else .ok () := by
  have p32 : pow2 32 = 4294967296 := rfl
  have p64 : pow2 64 = 18446744073709551616 := rfl
  have read : (Json.ofNat dimensions).nat? = some dimensions :=
    Json.nat?_ofNat.mpr ⟨by omega, rfl⟩
  have named : (indexName collection).isEmpty = false := by
    rw [Bool.eq_false_iff, indexName]
    simp
  have last : (forCollection collection kind dimensions).options.get? "dimensions" =
      some (.ofNat dimensions) := by cases kind <;> rfl
  rw [validate_spec named, IndexSpec.validateOptions, IndexSpec.isPositive, last, Option.bind_some,
    read]
  by_cases zero : dimensions = 0
  · subst zero
    cases kind <;> rfl
  · simp only [Nat.pos_of_ne_zero zero, decide_true, zero, if_false]
    cases kind <;> rfl

end IndexDescriptor

namespace Database

theorem namedCollection_command (key name : String) :
    namedCollection (Document.command key name) key =
      if name.isEmpty then .error (.store (.commandWithoutCollection key)) else .ok name := by
  have entry : (Document.command key name).get? key = some (.string name) :=
    Object.get?_insert_self [] key (.string name)
  unfold namedCollection
  rw [entry]

/-- What an adapter takes from the report on the indexes of a collection. -/
def reported (db : Database) (name : String) : Option ObservedIndex :=
  (db.indexes name).findSome? fun spec => ObservedIndex.ofSpec? (.object spec)

theorem reported_eq (db : Database) (name : String) :
    db.reported name = (Catalogue.chosen? (db.indexes name)).bind fun spec =>
      ObservedIndex.ofSpec? (.object spec) := by
  rw [reported, Catalogue.chosen?]
  induction db.indexes name with
  | nil => rfl
  | cons first rest ih =>
    rw [List.findSome?_cons, List.find?_cons]
    cases marked : IndexSpec.onVectors first with
    | false => rw [ObservedIndex.ofSpec?_eq_none marked, ih]
    | true =>
      obtain ⟨observed, seen⟩ := ObservedIndex.exists_ofSpec? marked
      rw [Option.bind_some, seen]

theorem chosen?_of_reported {db : Database} {name : String} (none : db.reported name = none) :
    Catalogue.chosen? (db.indexes name) = .none := by
  rw [reported_eq] at none
  cases chosen : Catalogue.chosen? (db.indexes name) with
  | none => rfl
  | some spec =>
    obtain ⟨observed, seen⟩ := ObservedIndex.exists_ofSpec? (List.find?_some chosen)
    rw [chosen, Option.bind_some, seen] at none
    cases none

theorem ofReply?_listing (name : String) (specs : List Document) :
    ObservedIndex.ofReply? [("cursor", .object [("id", .ofInt 0), ("ns", .string name),
        ("firstBatch", .array ((idIndexSpec :: specs).map .object))]), ("ok", .ofInt 1)] =
      specs.findSome? fun spec => ObservedIndex.ofSpec? (.object spec) := by
  -- the index of the ids heads the report and is no vector index
  have headless : ((idIndexSpec :: specs).map Json.object).findSome? ObservedIndex.ofSpec? =
      (specs.map Json.object).findSome? ObservedIndex.ofSpec? := rfl
  exact headless.trans List.findSome?_map

theorem requestedSpecs_createCommand (d : IndexDescriptor) (name : String) :
    requestedSpecs (d.createCommand name) =
      if name.isEmpty then .error (.store (.commandWithoutCollection createIndexesCommand))
      else (fun _ => (name, [d.spec])) <$> IndexSpec.validate d.spec := by
  have named : namedCollection (d.createCommand name) createIndexesCommand =
      if name.isEmpty then .error (.store (.commandWithoutCollection createIndexesCommand))
      else .ok name := rfl
  have listed : (d.createCommand name).get? "indexes" = some (.array [.object d.spec]) := rfl
  have values : IndexSpec.ofValues [.object d.spec] =
      (fun _ => [d.spec]) <$> IndexSpec.validate d.spec := by
    change (IndexSpec.validate d.spec >>= fun _ => _) >>= _ = _
    cases IndexSpec.validate d.spec <;> rfl
  unfold requestedSpecs
  rw [named, listed]
  cases name.isEmpty with
  | true => rfl
  | false =>
    simp only [values, Bool.false_eq_true, if_false, Fallible.ok_bind]
    cases IndexSpec.validate d.spec <;> rfl

/-- The first index of a collection meets none that could differ from it. -/
theorem execute_createCommand (db : Database) {name : String} (named : name.isEmpty = false)
    (bare : db.indexes name = []) (d : IndexDescriptor) :
    ∃ reply, execute (.command (d.createCommand name)) db =
      match IndexSpec.validate d.spec with
      | .error cause => (.error cause, db)
      | .ok () => (.ok reply, db.put name ⟨db.documents name, [d.spec]⟩) := by
  refine ⟨[("numIndexesBefore", .ofNat 1), ("numIndexesAfter", .ofNat 2), ("ok", .ofInt 1)], ?_⟩
  change createIndexes (d.createCommand name) db = _
  unfold createIndexes
  rw [requestedSpecs_createCommand, named]
  cases IndexSpec.validate d.spec with
  | error cause => rfl
  | ok _ =>
    have none : (db.opened name).indexes = [] := bare
    simp only [Bool.false_eq_true, if_false, Fallible.ok_map, none]
    rfl

end Database

namespace Upkeep

/-- On a store that can be reached an inspection fails only for want of a name. -/
theorem run_inspect_online {w : World Database} (online : w.store.offline = false)
    (name : String) :
    Task.run (inspect name) w =
      (if name.isEmpty then .error (.store (.commandWithoutCollection listIndexesCommand))
        else .ok (w.store.reported name),
        { w with
          store := .arrive (.command (Document.command listIndexesCommand name)) w.store }) := by
  have answered := Database.perform_of_online online
    (.command (Document.command listIndexesCommand name))
  refine Prod.ext ((run_inspect_fst name w).trans ?_)
    ((run_inspect name w).trans (by rw [answered]; rfl))
  rw [answered]
  change inspected (do
    let name ← Database.namedCollection (Document.command listIndexesCommand name)
      listIndexesCommand
    let c ← (w.store.arrive _).existing name
    return [("cursor", .object [("id", .ofInt 0), ("ns", .string name),
        ("firstBatch", .array ((Database.idIndexSpec :: c.indexes).map .object))]),
      ("ok", .ofInt 1)]) = _
  rw [Database.namedCollection_command]
  cases name.isEmpty with
  | true => rfl
  | false =>
    have here : (w.store.arrive (.command (Document.command listIndexesCommand name))).existing
        name = w.store.existing name := rfl
    simp only [Bool.false_eq_true, if_false, Fallible.ok_bind, here]
    unfold Database.existing
    cases found : w.store.find? name with
    | none =>
      rw [Database.reported, Database.indexes, Database.opened, found]
      rfl
    | some c =>
      rw [Database.reported, Database.indexes_of_find? found]
      exact congrArg Except.ok (Database.ofReply?_listing name c.indexes)

theorem run_ensure_of_none {σ : Type} [DocumentStore σ] {w : World σ} {name : String}
    (unknown : w.verdicts.get? name = none) (d : IndexDescriptor) :
    Task.run (ensure name d) w = Task.run (do
      let observed ← inspect name
      let status ← settle name d observed
      Task.remember name status) w := by
  unfold ensure
  rw [Task.run_bind, Task.run_verdict, unknown]

theorem run_createCommand {w : World Database} (online : w.store.offline = false) {name : String}
    (named : name.isEmpty = false) (bare : w.store.indexes name = []) (d : IndexDescriptor) :
    ∃ log reply, Task.run (Task.call (.command (d.createCommand name))) w =
      match IndexSpec.validate d.spec with
      | .error cause => (.error cause, { w with store := { w.store with log := log } })
      | .ok () => (.ok reply,
          ⟨Database.put { w.store with log := log } name ⟨w.store.documents name, [d.spec]⟩,
            w.verdicts⟩) := by
  obtain ⟨reply, executed⟩ := Database.execute_createCommand
    (.arrive (.command (d.createCommand name)) w.store) named bare d
  refine ⟨(Database.arrive (.command (d.createCommand name)) w.store).log, reply, ?_⟩
  rw [Task.run_call, Database.perform_of_online online, executed]
  cases IndexSpec.validate d.spec <;> rfl

/-- Whether a collection that has no index can be given this one. -/
def readied (name : String) (d : IndexDescriptor) : Result Unit :=
  if name.isEmpty then .error (.store (.commandWithoutCollection listIndexesCommand))
  else IndexSpec.validate d.spec

theorem readied_eq_ok {name : String} {d : IndexDescriptor} :
    readied name d = .ok () ↔ name.isEmpty = false ∧ IndexSpec.validate d.spec = .ok () := by
  unfold readied
  cases name.isEmpty <;> simp

theorem run_ensure_bare {w : World Database} (online : w.store.offline = false) {name : String}
    (unknown : w.verdicts.get? name = none) (bare : w.store.indexes name = [])
    (d : IndexDescriptor) :
    ∃ log, Task.run (ensure name d) w =
      match readied name d with
      | .error cause => (.error cause, { w with store := { w.store with log := log } })
      | .ok () => (.ok (.created d),
          ⟨Database.put { w.store with log := log } name ⟨w.store.documents name, [d.spec]⟩,
            w.verdicts.insert name (.created d)⟩) := by
  have unseen : w.store.reported name = none := by
    rw [Database.reported, bare]
    rfl
  rw [run_ensure_of_none unknown, Task.run_bind, run_inspect_online online, unseen, readied]
  cases named : name.isEmpty with
  | true => exact ⟨_, rfl⟩
  | false =>
    obtain ⟨log, reply, created⟩ := run_createCommand (w := { w with
      store := .arrive (.command (Document.command listIndexesCommand name)) w.store })
      online named bare d
    refine ⟨log, ?_⟩
    simp only [Bool.false_eq_true, if_false, settle, Task.run_bind]
    rw [created]
    cases IndexSpec.validate d.spec with
    | error cause => rfl
    | ok _ =>
      simp only [Task.run_pure, Task.run_remember, unknown]
      rfl

theorem run_ensure_seen {w : World Database} (online : w.store.offline = false) {name : String}
    (named : name.isEmpty = false) (unknown : w.verdicts.get? name = none) {o : ObservedIndex}
    (seen : w.store.reported name = some o) (d : IndexDescriptor) :
    Task.run (ensure name d) w = (.ok (.judge d.kind o),
      ⟨.arrive (.command (Document.command listIndexesCommand name)) w.store,
        w.verdicts.insert name (.judge d.kind o)⟩) := by
  rw [run_ensure_of_none unknown, Task.run_bind, run_inspect_online online, named, seen]
  simp only [Bool.false_eq_true, if_false, settle, Task.run_bind, Task.run_pure, Task.run_remember,
    unknown]

end Upkeep

end MemoryBank
