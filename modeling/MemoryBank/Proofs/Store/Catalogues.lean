import MemoryBank.Proofs.Index.Specs
import MemoryBank.Proofs.Store.Documents

set_option autoImplicit false

/-!
What calls do to the indexes of a collection. Only dropping the collection takes indexes away; a
command that creates some adds them behind those that are there, each a valid spec.
-/

namespace MemoryBank

namespace Catalogue

variable {catalogue catalogue' : List Document} {spec : Document}

/-- The first index that goes by the name of this spec equals it. -/
def Has (catalogue : List Document) (spec : Document) : Prop :=
  ∃ existing, catalogue.find? (·.get? "name" == spec.get? "name") = some existing ∧
    existing.same spec = true

/-- No index goes by the name of this spec, and none is on the path that it marks. -/
structure Free (catalogue : List Document) (spec : Document) : Prop where
  unnamed : catalogue.find? (·.get? "name" == spec.get? "name") = none
  unmarked : ∀ path, IndexSpec.vectorPath? spec = some path →
    ∀ other ∈ catalogue, IndexSpec.vectorPath? other ≠ some path

theorem Has.add (has : Has catalogue spec) : add catalogue spec = .ok catalogue := by
  obtain ⟨existing, found, same⟩ := has
  simp only [Catalogue.add, found, same, if_true]

theorem Free.add (free : Free catalogue spec) :
    add catalogue spec = .ok (catalogue ++ [spec]) := by
  have fine : ((IndexSpec.vectorPath? spec).isSome &&
      catalogue.any (IndexSpec.vectorPath? · == IndexSpec.vectorPath? spec)) = false := by
    cases marked : IndexSpec.vectorPath? spec with
    | none => rfl
    | some path => simpa using free.unmarked path marked
  simp only [Catalogue.add, free.unnamed, fine, Bool.false_eq_true, if_false]

theorem Free.has (free : Free catalogue spec)
    (named : (spec.get? "name" == spec.get? "name") = true) (same : spec.same spec = true) :
    Has (catalogue ++ [spec]) spec :=
  ⟨spec, by rw [List.find?_append, free.unnamed, List.find?_cons, named, Option.none_or], same⟩

theorem has_or_free (added : add catalogue spec = .ok catalogue') :
    Has catalogue spec ∧ catalogue' = catalogue ∨
      Free catalogue spec ∧ catalogue' = catalogue ++ [spec] := by
  unfold add at added
  simp only at added
  split at added
  · next existing found =>
    split at added
    · next same => exact .inl ⟨⟨existing, found, same⟩, (Except.ok.inj added).symm⟩
    · cases added
  · next unnamed =>
    split at added
    · cases added
    · next fine =>
      refine .inr ⟨⟨unnamed, fun path marked other member same => fine ?_⟩,
        (Except.ok.inj added).symm⟩
      rw [marked, Option.isSome_some, Bool.true_and, List.any_eq_true]
      exact ⟨other, member, beq_iff_eq.mpr same⟩

theorem add_eq_ok (added : add catalogue spec = .ok catalogue') :
    (catalogue' = catalogue ∧ ∃ existing ∈ catalogue, existing.same spec = true) ∨
      catalogue' = catalogue ++ [spec] := by
  rcases has_or_free added with ⟨⟨existing, found, same⟩, rfl⟩ | ⟨-, grown⟩
  · exact .inl ⟨rfl, existing, List.mem_of_find?_eq_some found, same⟩
  · exact .inr grown

theorem addAll_grows (specs catalogue : List Document) :
    ∃ added, (addAll specs catalogue).2 = catalogue ++ added ∧ ∀ spec ∈ added, spec ∈ specs := by
  induction specs generalizing catalogue with
  | nil => exact ⟨[], (List.append_nil _).symm, fun _ none => by cases none⟩
  | cons spec rest ih =>
    rw [addAll]
    cases first : add catalogue spec with
    | error cause => exact ⟨[], (List.append_nil _).symm, fun _ none => by cases none⟩
    | ok catalogue' =>
      obtain ⟨added, grown, listed⟩ := ih catalogue'
      rcases add_eq_ok first with ⟨rfl, -⟩ | rfl
      · exact ⟨added, grown, fun s member => List.mem_cons_of_mem spec (listed s member)⟩
      · refine ⟨spec :: added, by rw [grown, List.append_assoc]; rfl, ?_⟩
        rw [List.forall_mem_cons]
        exact ⟨List.mem_cons_self, fun s member => List.mem_cons_of_mem spec (listed s member)⟩

end Catalogue

namespace Database

def indexes (db : Database) (name : String) : List Document := (db.opened name).indexes

theorem indexes_put (db : Database) (name other : String) (c : Collection) :
    (db.put name c).indexes other = if other = name then c.indexes else db.indexes other := by
  rw [indexes, opened_put]
  split <;> rfl

end Database

/-- The specs a call asks for. -/
def Call.Asks (c : Call) (spec : Document) : Prop :=
  ∃ command name specs, c = .command command ∧
    Database.requestedSpecs command = .ok (name, specs) ∧ spec ∈ specs

def Call.drops (name : String) : Call → Bool
  | .dropCollection dropped => dropped == name
  | _ => false

namespace Database

/-- The catalogue of a collection is what adding specs that were asked for has left of it. -/
def Added (asked : Document → Prop) (name : String) (db db' : Database) : Prop :=
  ∃ specs, db'.indexes name = (Catalogue.addAll specs (db.indexes name)).2 ∧
    ∀ spec ∈ specs, asked spec

/-- The catalogue of a collection has grown by specs that were asked for. -/
def Grown (asked : Document → Prop) (name : String) (db db' : Database) : Prop :=
  ∃ added, db'.indexes name = db.indexes name ++ added ∧ ∀ spec ∈ added, asked spec

theorem Added.of_eq {asked : Document → Prop} {name : String} {db db' : Database}
    (same : db'.indexes name = db.indexes name) : Added asked name db db' :=
  ⟨[], same, fun _ none => by cases none⟩

theorem Added.grown {asked : Document → Prop} {name : String} {db db' : Database}
    (added : Added asked name db db') : Grown asked name db db' := by
  obtain ⟨specs, left, asks⟩ := added
  obtain ⟨new, grown, listed⟩ := Catalogue.addAll_grows specs (db.indexes name)
  exact ⟨new, left.trans grown, fun spec member => asks spec (listed spec member)⟩

theorem added_put {asked : Document → Prop} {db : Database} {name : String} {c : Collection}
    (same : c.indexes = db.indexes name) (other : String) :
    Added asked other db (db.put name c) := by
  refine .of_eq ?_
  rw [indexes_put]
  split
  · next here => rw [same, here]
  · rfl

theorem indexes_of_find? {db : Database} {name : String} {c : Collection}
    (found : db.find? name = some c) : db.indexes name = c.indexes := by
  rw [indexes, opened, found]
  rfl

theorem added_put_documents {asked : Document → Prop} {db : Database} {target : String}
    {c : Collection} (found : db.find? target = some c) (documents : List Document)
    (name : String) : Added asked name db (db.put target { c with documents := documents }) := by
  refine added_put ?_ name
  exact (indexes_of_find? found).symm

theorem indexes_insertAll (name : String) (ds : List Document) (n : Nat) (db : Database)
    (other : String) : (insertAll name n ds db).2.indexes other = db.indexes other := by
  induction ds generalizing n db with
  | nil => rfl
  | cons d rest ih =>
    have noted (d : Document) : (identify d db).2.indexes other = db.indexes other := by
      unfold identify
      split <;> rfl
    rw [insertAll]
    simp only
    split
    · exact noted d
    · rw [ih, indexes_put]
      split
      · next here => rw [← noted d, here]; rfl
      · exact noted d

theorem added_createIndexes (command : Document) (db : Database) (name : String) :
    Added (Call.command command).Asks name db (createIndexes command db).2 := by
  unfold createIndexes
  split
  · exact .of_eq rfl
  · next target specs requested =>
    by_cases here : name = target
    · refine ⟨specs, ?_, fun spec member => ⟨command, target, specs, rfl, requested, member⟩⟩
      rw [indexes_put, if_pos here, here]
      rfl
    · refine .of_eq ?_
      rw [indexes_put, if_neg here]

theorem added_runCommand (command : Document) (db : Database) (name : String) :
    Added (Call.command command).Asks name db (runCommand command db).2 := by
  unfold runCommand
  split
  · exact added_createIndexes command db name
  · exact .of_eq rfl
  · exact .of_eq rfl
  · unfold create
    split
    · exact .of_eq rfl
    · next new =>
      have missing : db.find? (Call.commandTarget command) = none := by
        simpa [NameMap.contains, find?] using new
      refine added_put ?_ name
      rw [indexes, opened, missing]
      rfl
  · exact .of_eq rfl
  · exact .of_eq rfl

theorem added_execute (c : Call) (db : Database) {name : String} (kept : c.drops name = false) :
    Added c.Asks name db (execute c db).2 := by
  cases c with
  | collectionNames | find _ _ _ | findOne _ _ | aggregate _ _ => exact .of_eq rfl
  | createCollection target => exact added_put rfl name
  | dropCollection dropped =>
    have other : name ≠ dropped := by
      rintro rfl
      simp [Call.drops] at kept
    refine .of_eq ?_
    simp only [execute, indexes, opened, find?, NameMap.get?_erase, if_neg other]
  | command command => exact added_runCommand command db name
  | insert target ds =>
    refine .of_eq ?_
    have opened : (db.put target (db.opened target)).indexes name = db.indexes name := by
      rw [indexes_put]
      split
      · next here => rw [here]; rfl
      · rfl
    exact (indexes_insertAll target ds 0 _ name).trans opened
  | update target filter change =>
    simp only [execute, update]
    cases found : db.find? target with
    | none => exact .of_eq rfl
    | some c => exact added_put_documents found _ name
  | deleteOne target filter =>
    simp only [execute, deleteOne]
    cases found : db.find? target with
    | none => exact .of_eq rfl
    | some c => exact added_put_documents found _ name
  | deleteMany target filter =>
    simp only [execute, deleteMany]
    cases found : db.find? target with
    | none => exact .of_eq rfl
    | some c =>
      simp only
      cases deleteSelected filter c.documents with
      | error cause => exact added_put_documents found _ name
      | ok r => exact added_put_documents found _ name

theorem added_perform (c : Call) (db : Database) {name : String} (kept : c.drops name = false) :
    Added c.Asks name db (DocumentStore.perform c db).2 := by
  cases online : db.offline with
  | true =>
    rw [perform_of_offline online]
    exact .of_eq rfl
  | false =>
    rw [perform_of_online online]
    exact added_execute c (arrive c db) kept

theorem grown_perform (c : Call) (db : Database) {name : String} (kept : c.drops name = false) :
    Grown c.Asks name db (DocumentStore.perform c db).2 :=
  (added_perform c db kept).grown

theorem insertAll_offline (name : String) (ds : List Document) (n : Nat) (db : Database) :
    (insertAll name n ds db).2.offline = db.offline := by
  induction ds generalizing n db with
  | nil => rfl
  | cons d rest ih =>
    have noted : (identify d db).2.offline = db.offline := by
      unfold identify
      split <;> rfl
    rw [insertAll]
    simp only
    split
    · exact noted
    · exact (ih ..).trans noted

theorem execute_offline (c : Call) (db : Database) : (execute c db).2.offline = db.offline := by
  cases c with
  | collectionNames | find _ _ _ | findOne _ _ | aggregate _ _ | createCollection _
  | dropCollection _ => rfl
  | command command => exact (frame_runCommand command db).offline
  | insert target ds => exact insertAll_offline target ds 0 _
  | update target filter change =>
    simp only [execute, update]
    cases db.find? target <;> rfl
  | deleteOne target filter =>
    simp only [execute, deleteOne]
    cases db.find? target <;> rfl
  | deleteMany target filter =>
    simp only [execute, deleteMany]
    cases db.find? target with
    | none => rfl
    | some c =>
      simp only
      cases deleteSelected filter c.documents <;> rfl

theorem perform_offline (c : Call) (db : Database) :
    (DocumentStore.perform c db).2.offline = db.offline := by
  cases online : db.offline with
  | true =>
    rw [perform_of_offline online]
    exact online
  | false =>
    rw [perform_of_online online]
    exact (execute_offline c (arrive c db)).trans online

end Database

namespace Database

theorem get?_of_namedCollection {command : Document} {key name : String}
    (named : namedCollection command key = .ok name) :
    command.get? key = some (.string name) := by
  unfold namedCollection at named
  split at named
  · next collection entry =>
    split at named
    · cases named
    · rw [entry, Except.ok.inj named]
  · cases named

theorem requestedSpecs_eq_ok {command : Document} {name : String} {specs : List Document}
    (requested : requestedSpecs command = .ok (name, specs)) :
    command.get? createIndexesCommand = some (.string name) ∧
      command.get? "indexes" = some (.array (specs.map .object)) ∧
      ∀ spec ∈ specs, IndexSpec.validate spec = .ok () := by
  unfold requestedSpecs at requested
  obtain ⟨target, named, requested⟩ := Fallible.bind_eq_ok.mp requested
  split at requested
  · next v vs given =>
    obtain ⟨read, checked, value⟩ := Fallible.bind_eq_ok.mp requested
    obtain ⟨rfl, rfl⟩ := Prod.mk.inj (Except.ok.inj value)
    obtain ⟨listed, valid⟩ := IndexSpec.ofValues_eq_ok checked
    exact ⟨get?_of_namedCollection named, listed ▸ given, valid⟩
  · cases requested

end Database

theorem Call.Asks.listed {command spec : Document} (asked : (Call.command command).Asks spec) :
    ∃ values, command.get? "indexes" = some (.array values) ∧ .object spec ∈ values ∧
      IndexSpec.validate spec = .ok () := by
  obtain ⟨_, name, specs, same, requested, member⟩ := asked
  obtain rfl := Call.command.inj same
  obtain ⟨-, given, valid⟩ := Database.requestedSpecs_eq_ok requested
  exact ⟨_, given, List.mem_map_of_mem member, valid spec member⟩

theorem Call.Asks.validate {c : Call} {spec : Document} (asked : c.Asks spec) :
    IndexSpec.validate spec = .ok () := by
  obtain ⟨command, -, -, rfl, -⟩ := id asked
  obtain ⟨-, -, -, valid⟩ := asked.listed
  exact valid

namespace Database

/-- All indexes have valid specs. -/
def Sound (db : Database) : Prop :=
  ∀ name, ∀ spec ∈ db.indexes name, IndexSpec.validate spec = .ok ()

/-- The collection is there and has a vector index of this kind. -/
def Carries (db : Database) (name : String) (kind : IndexKind) : Prop :=
  ∃ c, db.find? name = some c ∧ ∃ spec ∈ c.indexes, IndexSpec.Describes spec kind

theorem sound_empty : empty.Sound := fun _ _ none => by cases none

theorem carries_iff {db : Database} {name : String} {kind : IndexKind} :
    db.Carries name kind ↔ ∃ spec ∈ db.indexes name, IndexSpec.Describes spec kind := by
  constructor
  · rintro ⟨c, found, spec, member, described⟩
    exact ⟨spec, indexes_of_find? found ▸ member, described⟩
  · rintro ⟨spec, member, described⟩
    cases found : db.find? name with
    | none =>
      rw [indexes, opened, found] at member
      cases member
    | some c =>
      rw [indexes_of_find? found] at member
      exact ⟨c, found, spec, member, described⟩

/-- A call either only adds to the indexes of a collection or takes the collection away. -/
theorem added_or_gone (c : Call) (db : Database) (name : String) :
    Added c.Asks name db (DocumentStore.perform c db).2 ∨
      c.drops name = true ∧ (DocumentStore.perform c db).1.toOption.isSome = true ∧
        (DocumentStore.perform c db).2.find? name = none := by
  cases dropped : c.drops name with
  | false => exact .inl (added_perform c db dropped)
  | true =>
    cases online : db.offline with
    | true =>
      rw [perform_of_offline online]
      exact .inl (.of_eq rfl)
    | false =>
      cases c with
      | dropCollection target =>
        obtain rfl : target = name := beq_iff_eq.mp dropped
        rw [perform_of_online online]
        exact .inr ⟨rfl, rfl, (NameMap.get?_erase ..).trans (if_pos rfl)⟩
      | _ => cases dropped

theorem grown_or_gone (c : Call) (db : Database) (name : String) :
    Grown c.Asks name db (DocumentStore.perform c db).2 ∨
      c.drops name = true ∧ (DocumentStore.perform c db).1.toOption.isSome = true ∧
        (DocumentStore.perform c db).2.find? name = none :=
  (added_or_gone c db name).imp_left Added.grown

theorem Sound.perform {db : Database} (sound : db.Sound) (c : Call) :
    (DocumentStore.perform c db).2.Sound := by
  intro name spec member
  rcases grown_or_gone c db name with ⟨added, grown, asked⟩ | ⟨-, -, gone⟩
  · rw [grown] at member
    rcases List.mem_append.mp member with member | member
    · exact sound name spec member
    · exact (asked spec member).validate
  · rw [indexes, opened, gone] at member
    cases member

theorem Carries.perform {db : Database} {name : String} {kind : IndexKind}
    (carried : db.Carries name kind) (c : Call) :
    (DocumentStore.perform c db).2.Carries name kind ∨
      c.drops name = true ∧ (DocumentStore.perform c db).1.toOption.isSome = true ∧
        (DocumentStore.perform c db).2.find? name = none := by
  obtain ⟨spec, member, described⟩ := carries_iff.mp carried
  refine (grown_or_gone c db name).imp_left fun ⟨added, grown, _⟩ => ?_
  exact carries_iff.mpr ⟨spec, grown ▸ List.mem_append_left added member, described⟩

theorem namedCollection_eq_ok {command : Document} {key collection name : String}
    (entry : command.get? key = some (.string collection))
    (named : namedCollection command key = .ok name) : name = collection :=
  Json.string.inj (Option.some.inj ((get?_of_namedCollection named).symm.trans entry))

theorem find?_of_existing {db : Database} {name : String} {c : Collection}
    (found : db.existing name = .ok c) : db.find? name = some c := by
  unfold existing at found
  split at found
  · next here => rw [here, Except.ok.inj found]
  · cases found

/-- What the indexes of a collection are reported to be is what it carries. -/
theorem carries_of_listed {db db' : Database} (sound : db.Sound) {collection : String}
    {reply : Document} {observed : ObservedIndex}
    (listed : DocumentStore.perform (.command (Document.command listIndexesCommand collection)) db =
      (.ok reply, db'))
    (shown : ObservedIndex.ofReply? reply = some observed) (configured : IndexKind) :
    db'.Carries collection (IndexStatus.judge configured observed).effective := by
  cases online : db.offline with
  | true =>
    rw [perform_of_offline online] at listed
    cases (Prod.mk.inj listed).1
  | false =>
    rw [perform_of_online online] at listed
    obtain ⟨replied, rfl⟩ := Prod.mk.inj listed
    obtain ⟨name, named, replied⟩ := Fallible.bind_eq_ok.mp
      (show listIndexes (Document.command listIndexesCommand collection) _ = _ from replied)
    obtain ⟨c, found, replied⟩ := Fallible.bind_eq_ok.mp replied
    obtain rfl := Except.ok.inj replied
    obtain rfl := namedCollection_eq_ok rfl named
    obtain ⟨v, reported, read⟩ := List.exists_of_findSome?_eq_some
      (show ((idIndexSpec :: c.indexes).map Json.object).findSome? ObservedIndex.ofSpec? = _
        from shown)
    obtain ⟨spec, member, rfl⟩ := List.mem_map.mp reported
    -- the index of the ids, which heads every report, is no vector index
    rcases List.mem_cons.mp member with rfl | member
    · cases read
    have found := find?_of_existing found
    have valid := sound name spec ((indexes_of_find? found).symm ▸ member)
    exact ⟨c, found, spec, member, IndexSpec.describes_judge valid read configured⟩

theorem requestedSpecs_create {d : IndexDescriptor} {collection name : String}
    {specs : List Document}
    (requested : requestedSpecs (d.createCommand collection) = .ok (name, specs)) :
    name = collection ∧ specs = [d.spec] := by
  obtain ⟨target, named, requested⟩ := Fallible.bind_eq_ok.mp requested
  obtain ⟨read, valid, value⟩ := Fallible.bind_eq_ok.mp
    (show (IndexSpec.ofValues [.object d.spec] >>= fun specs => .ok (target, specs)) = _
      from requested)
  obtain ⟨spec, rest, checked, none, rfl⟩ := Fallible.mapM_cons_eq_ok.mp valid
  obtain ⟨_, -, made⟩ := Fallible.bind_eq_ok.mp checked
  obtain rfl := Except.ok.inj made
  obtain rfl := Except.ok.inj none
  obtain ⟨rfl, rfl⟩ := Prod.mk.inj (Except.ok.inj value)
  exact ⟨namedCollection_eq_ok rfl named, rfl⟩

/-- The answer to a command that makes indexes: how many there were and how many there are, with the
one on the ids. -/
def made (before after : List Document) : Document :=
  [("numIndexesBefore", .ofNat (before.length + 1)), ("numIndexesAfter", .ofNat (after.length + 1)),
    ("ok", .ofInt 1)]

theorem createIndexes_eq_ok {command reply : Document} {db db' : Database} :
    createIndexes command db = (.ok reply, db') ↔ ∃ name specs catalogue,
      requestedSpecs command = .ok (name, specs) ∧
      Catalogue.addAll specs (db.indexes name) = (.ok (), catalogue) ∧
      reply = made (db.indexes name) catalogue ∧
      db' = db.put name ⟨db.documents name, catalogue⟩ := by
  unfold createIndexes
  constructor
  · intro answered
    split at answered
    · cases (Prod.mk.inj answered).1
    · next name specs requested =>
      simp only at answered
      cases outcome : Catalogue.addAll specs (db.opened name).indexes with
      | mk r catalogue =>
        rw [outcome] at answered
        cases r with
        | error cause => cases (Prod.mk.inj answered).1
        | ok _ =>
          obtain ⟨replied, rfl⟩ := Prod.mk.inj answered
          exact ⟨name, specs, catalogue, requested, outcome, (Except.ok.inj replied).symm, rfl⟩
  · rintro ⟨name, specs, catalogue, requested, added, rfl, rfl⟩
    rw [indexes] at added
    simp only [requested, added]
    rfl

theorem perform_createIndexes_eq_ok {command reply : Document}
    (making : Call.commandName command = createIndexesCommand) {db db' : Database} :
    DocumentStore.perform (.command command) db = (.ok reply, db') ↔
      db.offline = false ∧ ∃ name specs catalogue,
        requestedSpecs command = .ok (name, specs) ∧
        Catalogue.addAll specs (db.indexes name) = (.ok (), catalogue) ∧
        reply = made (db.indexes name) catalogue ∧
        db' = (arrive (.command command) db).put name ⟨db.documents name, catalogue⟩ := by
  cases online : db.offline with
  | true =>
    rw [perform_of_offline online]
    exact iff_of_false (fun ran => by cases (Prod.mk.inj ran).1)
      fun ⟨reached, _⟩ => by cases reached
  | false =>
    rw [perform_of_online online]
    change runCommand command _ = _ ↔ _
    rw [runCommand, making]
    exact createIndexes_eq_ok.trans (and_iff_right rfl).symm

/-- What is behind an answer that an index has been made. -/
theorem add_of_created {db db' : Database} {d : IndexDescriptor} {collection : String}
    {reply : Document}
    (created : DocumentStore.perform (.command (d.createCommand collection)) db =
      (.ok reply, db')) :
    IndexSpec.validate d.spec = .ok () ∧
      Catalogue.add (db.indexes collection) d.spec = .ok (db'.indexes collection) := by
  obtain ⟨-, name, specs, catalogue, requested, outcome, -, rfl⟩ :=
    (perform_createIndexes_eq_ok rfl).mp created
  have asked : (Call.command (d.createCommand collection)).Asks d.spec :=
    ⟨_, name, specs, rfl, requested, (requestedSpecs_create requested).2 ▸ List.mem_cons_self⟩
  refine ⟨asked.validate, ?_⟩
  obtain ⟨rfl, rfl⟩ := requestedSpecs_create requested
  rw [indexes_put, if_pos rfl]
  simp only [Catalogue.addAll] at outcome
  split at outcome
  · next added => exact (Prod.mk.inj outcome).2 ▸ added
  · cases (Prod.mk.inj outcome).1

/-- An index that has been made, or is said to be there as it should be, is carried. -/
theorem carries_of_created {db db' : Database} (sound : db.Sound) {d : IndexDescriptor}
    {collection : String} {reply : Document}
    (created : DocumentStore.perform (.command (d.createCommand collection)) db =
      (.ok reply, db')) : db'.Carries collection d.kind := by
  refine carries_iff.mpr ?_
  rcases Catalogue.add_eq_ok (add_of_created created).2 with ⟨same, existing, member, equal⟩ | grown
  · have valid := sound collection existing member
    exact ⟨existing, same ▸ member, IndexSpec.describes_of_same valid equal⟩
  · exact ⟨d.spec, grown ▸ List.mem_append_right _ List.mem_cons_self, IndexSpec.describes_spec d⟩

/-- All indexes are as descriptors have them. -/
def Described (db : Database) : Prop :=
  ∀ name, ∀ spec ∈ db.indexes name, ∃ d : IndexDescriptor, spec = d.spec

theorem Described.perform {db : Database} (described : db.Described) {c : Call}
    (asked : ∀ spec, c.Asks spec → ∃ d : IndexDescriptor, spec = d.spec) :
    (DocumentStore.perform c db).2.Described := by
  intro name spec member
  rcases grown_or_gone c db name with ⟨added, grown, asks⟩ | ⟨-, -, gone⟩
  · rw [grown] at member
    rcases List.mem_append.mp member with old | new
    · exact described name spec old
    · exact asked spec (asks spec new)
  · rw [indexes, opened, gone] at member
    cases member

theorem Described.path {db : Database} (described : db.Described) {name : String}
    {index : VectorIndex} (searched : Catalogue.searched? (db.indexes name) = some index) :
    index.path = vectorPath := by
  obtain ⟨spec, member, read⟩ := List.exists_of_findSome?_eq_some searched
  obtain ⟨d, rfl⟩ := described name spec member
  exact (Option.some.inj (IndexSpec.vectorPath?_of_vectorIndex? read)).symm

end Database

end MemoryBank
