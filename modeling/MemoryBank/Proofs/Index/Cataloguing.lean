import MemoryBank.Proofs.Index.Making
import MemoryBank.Proofs.Store.Uniqueness

set_option autoImplicit false

/-!
The order that the catalogues of a store are kept in. Whatever calls were made, also commands that
stopped half-way, all specs are valid, each under a name and on a path of its own. Once a command
that makes indexes has gone through, it finds all of them there when it is made again.
-/

namespace MemoryBank

theorem IndexSpec.exists_name {spec : Document} (valid : validate spec = .ok ()) :
    ∃ name, spec.get? "name" = some (.string name) ∧ name ≠ "" := by
  unfold validate at valid
  simp only at valid
  split at valid
  · cases valid
  · next named =>
    cases entry : spec.get? "name" with
    | none => simp [entry] at named
    | some v =>
      cases v with
      | string name =>
        refine ⟨name, rfl, ?_⟩
        rintro rfl
        simp [entry, Json.string?] at named
      | null | bool _ | number _ | array _ | object _ => simp [entry, Json.string?] at named

namespace Catalogue

variable {catalogue catalogue' specs : List Document} {spec : Document}

/-- No two indexes go by one name, and no two are on the same path. -/
structure Apart (catalogue : List Document) : Prop where
  names : catalogue.Pairwise fun a b => a.get? "name" ≠ b.get? "name"
  paths : catalogue.Pairwise fun a b => ∀ path, IndexSpec.vectorPath? b = some path →
    IndexSpec.vectorPath? a ≠ some path

theorem Apart.add (apart : Apart catalogue) (valid : IndexSpec.validate spec = .ok ())
    (added : Catalogue.add catalogue spec = .ok catalogue') : Apart catalogue' := by
  rcases has_or_free added with ⟨-, rfl⟩ | ⟨free, rfl⟩
  · exact apart
  · obtain ⟨name, named, -⟩ := IndexSpec.exists_name valid
    have unnamed : ∀ other ∈ catalogue, other.get? "name" ≠ spec.get? "name" := by
      intro other member same
      refine List.find?_eq_none.mp free.unnamed other member ?_
      rw [same, named]
      exact beq_self_eq_true (some name)
    constructor
    · simpa [List.pairwise_append, apart.names] using unnamed
    · simpa [List.pairwise_append, apart.paths] using
        fun other member path marked => free.unmarked path marked other member

theorem Apart.addAll (apart : Apart catalogue)
    (valid : ∀ spec ∈ specs, IndexSpec.validate spec = .ok ()) :
    Apart (Catalogue.addAll specs catalogue).2 := by
  induction specs generalizing catalogue with
  | nil => exact apart
  | cons spec rest ih =>
    rw [List.forall_mem_cons] at valid
    rw [Catalogue.addAll]
    cases added : Catalogue.add catalogue spec with
    | error cause => exact apart
    | ok catalogue' => exact ih (apart.add valid.1 added) valid.2

theorem Has.append (has : Has catalogue spec) (more : List Document) :
    Has (catalogue ++ more) spec := by
  obtain ⟨existing, found, same⟩ := has
  exact ⟨existing, by rw [List.find?_append, found, Option.some_or], same⟩

theorem has_of_add (own : Object.WellFormed spec)
    (added : add catalogue spec = .ok catalogue') : Has catalogue' spec := by
  rcases has_or_free added with ⟨has, rfl⟩ | ⟨free, rfl⟩
  · exact has
  · refine free.has ?_ (Json.same_refl _ own)
    cases entry : spec.get? "name" with
    | none => rfl
    | some v => exact Json.same_refl v (Object.wellFormed_of_get? own.2 entry)

theorem has_of_addAll (own : ∀ spec ∈ specs, Object.WellFormed spec)
    (added : addAll specs catalogue = (.ok (), catalogue')) :
    ∀ spec ∈ specs, Has catalogue' spec := by
  induction specs generalizing catalogue with
  | nil => exact fun _ none => by cases none
  | cons spec rest ih =>
    rw [List.forall_mem_cons] at own ⊢
    rw [addAll] at added
    cases first : add catalogue spec with
    | error cause =>
      rw [first] at added
      cases (Prod.mk.inj added).1
    | ok next =>
      rw [first] at added
      -- what is added behind does not come before the spec that is there
      obtain ⟨more, grown, -⟩ := addAll_grows rest next
      obtain rfl : catalogue' = next ++ more :=
        (congrArg Prod.snd (show addAll rest next = _ from added)).symm.trans grown
      exact ⟨(has_of_add own.1 first).append more, ih own.2 added⟩

theorem addAll_of_has (has : ∀ spec ∈ specs, Has catalogue spec) :
    addAll specs catalogue = (.ok (), catalogue) := by
  induction specs with
  | nil => rfl
  | cons spec rest ih =>
    rw [List.forall_mem_cons] at has
    simp only [addAll, has.1.add, ih has.2]

end Catalogue

namespace Database

variable {db db' : Database} {command reply : Document}

/-- All catalogues have valid specs only and keep them apart. -/
structure Ordered (db : Database) : Prop where
  sound : db.Sound
  apart : ∀ name, Catalogue.Apart (db.indexes name)

theorem Ordered.perform (ordered : db.Ordered) (c : Call) :
    (DocumentStore.perform c db).2.Ordered := by
  refine ⟨ordered.sound.perform c, fun name => ?_⟩
  rcases added_or_gone c db name with ⟨specs, left, asked⟩ | ⟨-, -, gone⟩
  · rw [left]
    exact (ordered.apart name).addAll fun spec member => (asked spec member).validate
  · rw [indexes, opened, gone]
    exact ⟨.nil, .nil⟩

theorem ordered_after (calls : List Call) : (after calls).Ordered := by
  induction calls using List.reverseRecOn with
  | nil => exact ⟨sound_empty, fun _ => ⟨.nil, .nil⟩⟩
  | append_singleton calls c ih =>
    rw [after_append]
    exact ih.perform c

theorem perform_createIndexes_of_has {name : String} {specs : List Document} {c : Collection}
    (online : db.offline = false) (making : Call.commandName command = createIndexesCommand)
    (requested : requestedSpecs command = .ok (name, specs))
    (has : ∀ spec ∈ specs, Catalogue.Has c.indexes spec) :
    DocumentStore.perform (.command command) (db.put name c) =
      (.ok (made c.indexes c.indexes), arrive (.command command) (db.put name c)) := by
  have here : (db.put name c).opened name = c :=
    (opened_put db name name c).trans (if_pos rfl)
  refine (perform_createIndexes_eq_ok making).mpr
    ⟨online, name, specs, c.indexes, requested, ?_, ?_, ?_⟩
  · rw [indexes, here]
    exact Catalogue.addAll_of_has has
  · rw [indexes, here]
  · rw [documents, here]
    exact (put_arrive_put db name c _).symm

/-- After any calls, catalogues have valid specs with names and paths of their own, and those on
vectors can all be read. A command that makes indexes and goes through puts what is new behind the
old ones and counts it, whereupon all that was asked for is there; made again, it does nothing. -/
theorem catalogues_in_order (calls : List Call) :
    (∀ name, Catalogue.Apart ((after calls).indexes name) ∧
      ∀ spec ∈ (after calls).indexes name, IndexSpec.validate spec = .ok () ∧
        (∃ own, spec.get? "name" = some (.string own) ∧ own ≠ "") ∧
        ∀ path, IndexSpec.vectorPath? spec = some path →
          ∃ index, IndexSpec.vectorIndex? spec = some index ∧ index.path = path) ∧
    ∀ command reply db', Object.WellFormed command →
      Call.commandName command = createIndexesCommand →
      DocumentStore.perform (.command command) (after calls) = (.ok reply, db') →
      ∃ (name : String) (specs added : List Document),
        command.get? createIndexesCommand = some (.string name) ∧
        command.get? "indexes" = some (.array (specs.map .object)) ∧
        db' = (arrive (.command command) (after calls)).put name
          ⟨(after calls).documents name, (after calls).indexes name ++ added⟩ ∧
        (∀ spec ∈ added, spec ∈ specs) ∧
        (∀ spec ∈ specs, ∃ existing ∈ db'.indexes name, existing.same spec = true) ∧
        reply.get? "numIndexesBefore" = some (.ofNat (((after calls).indexes name).length + 1)) ∧
        reply.get? "numIndexesAfter" =
          some (.ofNat (((after calls).indexes name).length + 1 + added.length)) ∧
        ∃ reply', DocumentStore.perform (.command command) db' =
          (.ok reply', arrive (.command command) db') := by
  obtain ⟨sound, apart⟩ := ordered_after calls
  refine ⟨fun name => ⟨apart name, fun spec member => ?_⟩,
    fun command reply db' own making ran => ?_⟩
  · have valid := sound name spec member
    refine ⟨valid, IndexSpec.exists_name valid, fun path marked => ?_⟩
    obtain ⟨index, read⟩ := IndexSpec.exists_vectorIndex? valid marked
    exact ⟨index, read,
      Option.some.inj ((IndexSpec.vectorPath?_of_vectorIndex? read).symm.trans marked)⟩
  · obtain ⟨online, name, specs, catalogue, requested, outcome, rfl, rfl⟩ :=
      (perform_createIndexes_eq_ok making).mp ran
    obtain ⟨named, given, -⟩ := requestedSpecs_eq_ok requested
    obtain ⟨added, grown, asked⟩ := Catalogue.addAll_grows specs ((after calls).indexes name)
    obtain rfl : catalogue = (after calls).indexes name ++ added :=
      (congrArg Prod.snd outcome).symm.trans grown
    have values := Object.wellFormed_of_get? own.2 given
    have has := Catalogue.has_of_addAll
      (fun spec member => Json.wellFormed_of_mem values (List.mem_map_of_mem member)) outcome
    refine ⟨name, specs, added, named, given, rfl, asked, fun spec member => ?_, rfl, ?_, _,
      perform_createIndexes_of_has (show (arrive (.command command) (after calls)).offline = false
        from online) making requested has⟩
    · obtain ⟨existing, found, same⟩ := has spec member
      rw [indexes_put, if_pos rfl]
      exact ⟨existing, List.mem_of_find?_eq_some found, same⟩
    · rw [Nat.add_right_comm, ← List.length_append]
      rfl

def asking (specs : List Document) : Document :=
  Document.command createIndexesCommand "memories" ++ [("indexes", .array (specs.map .object))]

def vectorSpec : Document := (IndexDescriptor.forCollection "memories" .diskann 2).spec

def byUser : Document := [("name", .string "by_user"), ("key", .object [("user_id", .ofInt 1)])]

/-- Of two indexes on the same vectors the first is made, and the command fails. -/
def halfway : Database :=
  after [.command (asking [vectorSpec, (IndexDescriptor.forCollection "others" .hnsw 3).spec])]

/-- The index that is there is asked for with its entries in another order, next to a new one. -/
theorem catalogues_in_order_halfway :
    halfway.indexes "memories" = [vectorSpec] ∧
      ∃ db', DocumentStore.perform (.command (asking [vectorSpec.reverse, byUser])) halfway =
          (.ok (made [vectorSpec] [vectorSpec, byUser]), db') ∧
        db'.indexes "memories" = [vectorSpec, byUser] ∧
        ∃ reply', DocumentStore.perform (.command (asking [vectorSpec.reverse, byUser])) db' =
          (.ok reply', arrive (.command (asking [vectorSpec.reverse, byUser])) db') := by
  have own : Object.WellFormed (asking [vectorSpec.reverse, byUser]) := by
    simp [Object.WellFormed, Json.WellFormed, Json.WellFormedEntries, Json.WellFormedList,
      Number.Valid, Number.inRange, Word.half64, Word.bound64, Json.ofNat, Json.ofInt, asking,
      byUser, vectorSpec, Document.command, createIndexesCommand, vectorOptionsKey,
      IndexDescriptor.spec, IndexDescriptor.buildOptions, IndexDescriptor.forCollection,
      IndexKind.defaultParams]
  have ran : DocumentStore.perform (.command (asking [vectorSpec.reverse, byUser])) halfway =
      (.ok (made [vectorSpec] [vectorSpec, byUser]),
        (DocumentStore.perform (.command (asking [vectorSpec.reverse, byUser])) halfway).2) := by
    rfl
  obtain ⟨-, repeats⟩ := catalogues_in_order
    [.command (asking [vectorSpec, (IndexDescriptor.forCollection "others" .hnsw 3).spec])]
  obtain ⟨_, _, _, -, -, -, -, -, -, -, again⟩ := repeats _ _ _ own rfl ran
  exact ⟨rfl, _, ran, rfl, again⟩

end Database

end MemoryBank
