import MemoryBank.Proofs.Fallible
import MemoryBank.Proofs.Program.Runs
import MemoryBank.Proofs.Store.Documents
import MemoryBank.VectorStore

set_option autoImplicit false

/-!
Tasks that touch no document, and what an insertion through the adapter adds.
-/

namespace MemoryBank

namespace Task

variable {α β : Type}

def Keeps (t : Task α) : Prop :=
  ∀ w : World Database, Database.Frame w.store (run t w).2.store

theorem keeps_pure (a : α) : (pure a : Task α).Keeps := fun _ => .refl _

theorem keeps_verdict (collection : String) : (verdict collection).Keeps := fun _ => .refl _

theorem keeps_remember (collection : String) (status : IndexStatus) :
    (remember collection status).Keeps := by
  intro w
  rw [run_remember]
  cases w.verdicts.get? collection <;> exact .refl _

theorem keeps_ofResult (r : Result α) : (ofResult r).Keeps := fun w => .refl w.store

theorem keeps_newId : newId.Keeps := fun _ => ⟨rfl, fun _ => rfl⟩

theorem keeps_call {c : Call} (executed : ∀ db, Database.Frame db (Database.execute c db).2) :
    (call c).Keeps := fun _ =>
  Database.frame_perform fun _ => executed _

theorem keeps_command (command : Document) : (call (.command command)).Keeps :=
  keeps_call (Database.frame_runCommand command)

theorem Keeps.bind {t : Task α} {f : α → Task β} (first : t.Keeps) (behind : ∀ a, (f a).Keeps) :
    (t >>= f).Keeps :=
  run_bind_of_trans (R := fun w w' => Database.Frame w.store w'.store) .trans first behind

end Task

namespace Upkeep

/-- What an inspection makes of the answer to its one call. -/
def inspected : Result Document → Result (Option ObservedIndex)
  | .ok reply => .ok (ObservedIndex.ofReply? reply)
  | .error cause => if cause.isNotFound then .ok none else .error cause

theorem inspect_eq (collection : String) : ExceptT.run (inspect collection) =
    .step (.call (.command (Document.command listIndexesCommand collection))) fun r =>
      .done (inspected r) := by
  refine congrArg (Program.step _) (funext fun r => ?_)
  cases r <;> rfl

theorem run_inspect {σ : Type} [DocumentStore σ] (collection : String) (w : World σ) :
    (Task.run (inspect collection) w).2 = { w with
      store := (DocumentStore.perform
        (.command (Document.command listIndexesCommand collection)) w.store).2 } := by
  rw [Task.run, inspect_eq]
  rfl

theorem run_inspect_fst {σ : Type} [DocumentStore σ] (collection : String) (w : World σ) :
    (Task.run (inspect collection) w).1 = inspected (DocumentStore.perform
      (.command (Document.command listIndexesCommand collection)) w.store).1 := by
  rw [Task.run, inspect_eq]
  rfl

theorem keeps_inspect (collection : String) : (inspect collection).Keeps := by
  intro w
  rw [run_inspect]
  exact Database.frame_command _ w.store

theorem keeps_settle (collection : String) (d : IndexDescriptor) (observed : Option ObservedIndex) :
    (settle collection d observed).Keeps := by
  cases observed with
  | none => exact (Task.keeps_command _).bind fun _ => Task.keeps_pure _
  | some observed => exact Task.keeps_pure _

theorem keeps_ensure (collection : String) (d : IndexDescriptor) : (ensure collection d).Keeps := by
  refine (Task.keeps_verdict collection).bind fun known => ?_
  cases known with
  | some status => exact Task.keeps_pure status
  | none =>
    exact (keeps_inspect collection).bind fun observed =>
      (keeps_settle collection d observed).bind fun status => Task.keeps_remember collection status

theorem verdict_of_ensure {w w' : World Database} {name : String} {d : IndexDescriptor}
    {status : IndexStatus} (ensured : Task.run (ensure name d) w = (.ok status, w')) :
    w'.verdicts.get? name = some status := by
  obtain ⟨known, w₁, looked, ensured⟩ := Task.run_bind_eq_ok ensured
  obtain ⟨seen, rfl⟩ := Prod.mk.inj looked
  cases known with
  | some standing =>
    obtain ⟨same, rfl⟩ := Prod.mk.inj ensured
    rw [Except.ok.inj seen, Except.ok.inj same]
  | none =>
    obtain ⟨observed, w₂, -, ensured⟩ := Task.run_bind_eq_ok ensured
    obtain ⟨verdict, w₃, -, ensured⟩ := Task.run_bind_eq_ok ensured
    rw [Task.run_remember] at ensured
    cases before : w₃.verdicts.get? name with
    | some standing =>
      rw [before] at ensured
      obtain ⟨same, rfl⟩ := Prod.mk.inj ensured
      rw [before, Except.ok.inj same]
    | none =>
      rw [before] at ensured
      obtain ⟨same, rfl⟩ := Prod.mk.inj ensured
      rw [NameMap.get?_insert, if_pos rfl, Except.ok.inj same]

end Upkeep

theorem Record.length_of_validate {r : Record} {dimensions : Nat}
    (valid : r.validate dimensions = .ok ()) : r.vector.length = dimensions := by
  refine Decidable.byContradiction fun off => ?_
  unfold validate at valid
  simp only [ne_eq, off, not_false_eq_true, if_true] at valid
  split at valid <;> cases valid

theorem Record.validate_eq_ok {r : Record} {dimensions : Nat} :
    r.validate dimensions = .ok () ↔ r.id.isEmpty = false ∧ r.vector.length = dimensions ∧
      r.payload.scope.isEmpty = false := by
  by_cases fits : r.vector.length = dimensions
  · unfold validate
    cases r.id.isEmpty with
    | true => exact ⟨nofun, nofun⟩
    | false =>
      cases r.payload.scope.isEmpty with
      | true => simp [fits]
      | false => simp [fits]; rfl
  · exact ⟨fun valid => absurd (length_of_validate valid) fits, fun valid => absurd valid.2.1 fits⟩

namespace VectorStore

theorem keeps_ensureIndex (v : VectorStore) : v.ensureIndex.Keeps := Upkeep.keeps_ensure _ _

theorem ofDocument_toDocument (score : Option Single) (r : Record) :
    StoredMemory.ofDocument score r.toDocument =
      (StoredMemory.mk r.id score) <$> Payload.ofDocument r.payload.toDocument := by
  change (Payload.ofDocument r.payload.toDocument >>= fun p =>
    (.ok ⟨r.id, score, p⟩ : Result StoredMemory)) = _
  cases Payload.ofDocument r.payload.toDocument <;> rfl

theorem contains_id (r : Record) : Object.contains r.toDocument Document.idKey = true := rfl

theorem documents_eq_ok {v : VectorStore} {ids : List String} {vectors : List Embedding}
    {payloads : List Payload} {ds : List Document}
    (made : v.documents ids vectors payloads = .ok ds) :
    ds = (ids.zip (vectors.zip payloads)).map fun r => (Record.mk r.1 r.2.1 r.2.2).toDocument := by
  unfold documents at made
  split at made
  · cases made
  simp only at made
  generalize ids.zip (vectors.zip payloads) = rows at made
  induction rows generalizing ds with
  | nil => exact (Except.ok.inj made).symm
  | cons row rest ih =>
    obtain ⟨d, others, first, tail, rfl⟩ := Fallible.mapM_cons_eq_ok.mp made
    obtain ⟨_, -, value⟩ := Fallible.bind_eq_ok.mp first
    rw [List.map_cons, ← ih tail, ← Except.ok.inj value]

theorem insert_appended {v : VectorStore} {ids : List String} {vectors : List Embedding}
    {payloads : List Payload} {w w' : World Database}
    (inserted : Task.run (v.insert ids vectors payloads) w = (.ok (), w')) :
    ∃ ds, v.documents ids vectors payloads = .ok ds ∧
      Database.Appended v.collection ds w.store w'.store ∧
      (ds ≠ [] → w.store.offline = false) := by
  obtain ⟨ds, w₁, made, inserted⟩ := Task.run_bind_eq_ok inserted
  obtain ⟨valid, rfl⟩ := Prod.mk.inj made
  refine ⟨ds, valid, ?_⟩
  cases ds with
  | nil =>
    -- without records the store is not called at all
    obtain ⟨-, rfl⟩ := Prod.mk.inj inserted
    exact ⟨⟨rfl, (List.append_nil _).symm, fun _ _ => rfl⟩, fun some => absurd rfl some⟩
  | cons d rest =>
    obtain ⟨_, w₂, ensured, inserted⟩ := Task.run_bind_eq_ok (t := v.ensureIndex) inserted
    obtain ⟨count, w₃, called, done⟩ := Task.run_bind_eq_ok inserted
    obtain ⟨-, rfl⟩ := Prod.mk.inj done
    -- seeing to the index touches no document, so the insertion starts from those of `w`
    have kept := v.keeps_ensureIndex w
    rw [ensured] at kept
    have ids : ∀ e ∈ d :: rest, Object.contains e Document.idKey = true := by
      rw [documents_eq_ok valid]
      intro e member
      obtain ⟨r, -, rfl⟩ := List.mem_map.mp member
      exact contains_id _
    obtain ⟨online, appended⟩ := Database.perform_insert ids (Task.run_call_eq_ok called).1
    exact ⟨appended.after kept, fun _ => kept.offline ▸ online⟩

theorem mem_documents {v : VectorStore} {ids : List String} {vectors : List Embedding}
    {payloads : List Payload} {ds : List Document}
    (made : v.documents ids vectors payloads = .ok ds) {r : Record}
    (member : (r.id, r.vector, r.payload) ∈ ids.zip (vectors.zip payloads)) :
    r.vector.length = v.settings.dimensions ∧ r.toDocument ∈ ds := by
  unfold documents at made
  split at made
  · cases made
  obtain ⟨d, among, value⟩ := Fallible.exists_mem_of_mapM made member
  obtain ⟨_, valid, value⟩ := Fallible.bind_eq_ok.mp value
  obtain rfl := Except.ok.inj value
  exact ⟨Record.length_of_validate valid, among⟩

/-- What an insertion that goes through leaves behind. -/
theorem run_insert_eq_ok {v : VectorStore} {ids : List String} {vectors : List Embedding}
    {payloads : List Payload} {w w' : World Database}
    (inserted : Task.run (v.insert ids vectors payloads) w = (.ok (), w')) {r : Record}
    (member : (r.id, r.vector, r.payload) ∈ ids.zip (vectors.zip payloads)) :
    r.vector.length = v.settings.dimensions ∧
      r.toDocument ∈ w'.store.documents v.collection ∧
        ∃ status, w'.verdicts.get? v.collection = some status := by
  obtain ⟨ds, made, appended, -⟩ := insert_appended inserted
  obtain ⟨fits, among⟩ := mem_documents made member
  refine ⟨fits, appended.grown ▸ List.mem_append_right _ among, ?_⟩
  unfold insert at inserted
  rw [made] at inserted
  obtain ⟨_, w₁, passed, inserted⟩ := Task.run_bind_eq_ok inserted
  obtain ⟨same, rfl⟩ := Prod.mk.inj passed
  obtain rfl := Except.ok.inj same
  rw [if_neg (by simpa using List.ne_nil_of_mem among)] at inserted
  obtain ⟨status, w₂, ensured, inserted⟩ := Task.run_bind_eq_ok (t := v.ensureIndex) inserted
  obtain ⟨_, w₃, called, done⟩ := Task.run_bind_eq_ok inserted
  obtain ⟨-, rfl⟩ := Prod.mk.inj done
  exact ⟨status, (Task.run_call_eq_ok called).2 ▸ Upkeep.verdict_of_ensure ensured⟩

end VectorStore

end MemoryBank
