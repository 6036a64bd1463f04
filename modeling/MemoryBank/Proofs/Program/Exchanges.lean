import MemoryBank.Proofs.Index.Ensuring
import MemoryBank.Proofs.Store.Finding
import MemoryBank.Proofs.Store.Operations

set_option autoImplicit false

/-!
The calls that are made in a run, one after another, and whether they went through.
-/

namespace MemoryBank

namespace Database

theorem log_insertAll (name : String) (ds : List Document) (n : Nat) (db : Database) :
    (insertAll name n ds db).2.log = db.log := by
  induction ds generalizing n db with
  | nil => rfl
  | cons d rest ih =>
    have noted : (identify d db).2.log = db.log := by
      unfold identify
      split <;> rfl
    rw [insertAll]
    simp only
    split
    · exact noted
    · exact (ih ..).trans noted

theorem log_runCommand (command : Document) (db : Database) :
    (runCommand command db).2.log = db.log := by
  unfold runCommand
  split
  · unfold createIndexes
    split <;> rfl
  · rfl
  · rfl
  · unfold create
    split <;> rfl
  · rfl
  · rfl

theorem log_execute (c : Call) (db : Database) : (execute c db).2.log = db.log := by
  cases c with
  | collectionNames | find _ _ _ | findOne _ _ | aggregate _ _ | createCollection _
  | dropCollection _ => rfl
  | command command => exact log_runCommand command db
  | insert target ds => exact log_insertAll target ds 0 _
  | update target filter change =>
    simp only [execute, update]
    cases db.find? target <;> rfl
  | deleteOne target filter =>
    simp only [execute, deleteOne]
    cases db.find? target <;> rfl
  | deleteMany target filter =>
    simp only [execute, deleteMany]
    cases db.find? target with
    | none => rfl
    | some c =>
      simp only
      cases deleteSelected filter c.documents <;> rfl

theorem log_perform (c : Call) (db : Database) :
    (DocumentStore.perform c db).2.log = db.log ++ [⟨c.verb, c.target⟩] := by
  cases online : db.offline with
  | true => simp [perform_of_offline online, arrive]
  | false => simp [perform_of_online online, log_execute, arrive]

end Database

structure Exchange where
  call : Call
  passed : Bool

namespace Exchange

def entry (x : Exchange) : LogEntry := ⟨x.call.verb, x.call.target⟩

end Exchange

def Step.exchange {σ : Type} [DocumentStore σ] (s : Step) (w : World σ) : List Exchange :=
  match s with
  | call c => [⟨c, (DocumentStore.perform c w.store).1.toOption.isSome⟩]
  | _ => []

namespace Program

variable {σ α β : Type} [DocumentStore σ]

def exchanges : Program α → World σ → List Exchange
  | done _, _ => []
  | step s next, w => s.exchange w ++ exchanges (next (s.perform w).1) (s.perform w).2

theorem exchanges_bind (p : Program α) (f : α → Program β) (w : World σ) :
    exchanges (bind p f) w = exchanges p w ++ exchanges (f (run p w).1) (run p w).2 := by
  induction p generalizing w with
  | done a => rfl
  | step s next ih => simp only [bind, exchanges, run, ih, List.append_assoc]

/-- The log of a database grows by what is called. -/
theorem log_run (p : Program α) (w : World Database) :
    (run p w).2.store.log = w.store.log ++ (exchanges p w).map (·.entry) := by
  induction p generalizing w with
  | done a => simp [run, exchanges]
  | step s next ih =>
    have grown : (s.perform w).2.store.log = w.store.log ++ (s.exchange w).map (·.entry) := by
      cases s with
      | call c => exact Database.log_perform c w.store
      | remember name status =>
        simp only [Step.perform, Step.exchange, List.map_nil, List.append_nil]
        split <;> rfl
      | verdict _ | forget _ | newId => simp [Step.perform, Step.exchange, DocumentStore.newId,
          Database.newId]
    simp only [run, exchanges, ih, grown, List.map_append, List.append_assoc]

end Program

namespace Task

variable {σ α β : Type} [DocumentStore σ]

def exchanges (t : Task α) (w : World σ) : List Exchange := Program.exchanges (ExceptT.run t) w

@[simp] theorem exchanges_pure (a : α) (w : World σ) : exchanges (pure a) w = [] := rfl

@[simp] theorem exchanges_ofResult (r : Result α) (w : World σ) : exchanges (ofResult r) w = [] :=
  rfl

@[simp] theorem exchanges_verdict (name : String) (w : World σ) :
    exchanges (verdict name) w = [] := rfl

@[simp] theorem exchanges_remember (name : String) (status : IndexStatus) (w : World σ) :
    exchanges (remember name status) w = [] := rfl

@[simp] theorem exchanges_forget (name : String) (w : World σ) : exchanges (forget name) w = [] :=
  rfl

@[simp] theorem exchanges_call (c : Call) (w : World σ) :
    exchanges (call c) w = [⟨c, (DocumentStore.perform c w.store).1.toOption.isSome⟩] := rfl

theorem exchanges_bind (t : Task α) (f : α → Task β) (w : World σ) :
    exchanges (t >>= f) w = exchanges t w ++
      match run t w with
      | (.ok a, w') => exchanges (f a) w'
      | (.error _, _) => [] := by
  refine (Program.exchanges_bind (ExceptT.run t) (ExceptT.bindCont f) w).trans ?_
  change exchanges t w ++ Program.exchanges (ExceptT.bindCont f (run t w).1) (run t w).2 = _
  rcases run t w with ⟨_ | a, w'⟩ <;> rfl

/-- From worlds with `I` the task leads to such worlds, and all its exchanges are fine. -/
def Upholds (I : World Database → Prop) (fine : Exchange → Prop) (t : Task α) : Prop :=
  ∀ w, I w → I (run t w).2 ∧ ∀ x ∈ exchanges t w, fine x

theorem closed_upholds (I : World Database → Prop) (fine : Exchange → Prop) :
    Closed fun _ t => t.Upholds I fine where
  result _ _ holds := ⟨holds, by simp⟩
  bind {α β t f} first behind w holds := by
    obtain ⟨between, passed⟩ := first w holds
    rw [run_bind, exchanges_bind]
    rcases outcome : run t w with ⟨cause | a, w'⟩
    · simp only [outcome] at between
      simpa using ⟨between, passed⟩
    · simp only [outcome] at between
      obtain ⟨after, later⟩ := behind a w' between
      exact ⟨after, List.forall_mem_append.mpr ⟨passed, later⟩⟩

end Task

/-- The world once it has been asked for the indexes of a collection. -/
def World.looked (w : World Database) (name : String) : World Database :=
  { w with store := .arrive (.command (Document.command listIndexesCommand name)) w.store }

@[simp] theorem World.verdicts_looked (w : World Database) (name : String) :
    (w.looked name).verdicts = w.verdicts := rfl

namespace Upkeep

variable {w : World Database} {name : String}

theorem exchanges_inspect (name : String) (w : World Database) :
    ∃ passed, Task.exchanges (inspect name) w =
      [⟨.command (Document.command listIndexesCommand name), passed⟩] := by
  refine ⟨_, congrArg (_ :: ·) ?_⟩
  change Program.exchanges (match (DocumentStore.perform
      (.command (Document.command listIndexesCommand name)) w.store).1 with
    | .ok reply => pure (Except.ok (ObservedIndex.ofReply? reply))
    | .error cause => pure (if cause.isNotFound then .ok none else .error cause)) _ = []
  cases (DocumentStore.perform (.command (Document.command listIndexesCommand name)) w.store).1 <;>
    rfl

theorem exchanges_ensure_of_standing {status : IndexStatus}
    (standing : w.verdicts.get? name = some status) (d : IndexDescriptor) :
    Task.exchanges (ensure name d) w = [] := by
  simp [ensure, Task.exchanges_bind, standing]

theorem exchanges_settle (name : String) (d : IndexDescriptor) (observed : Option ObservedIndex)
    (w : World Database) : Task.exchanges (settle name d observed) w =
      match observed with
      | none => [⟨.command (d.createCommand name),
          (DocumentStore.perform (.command (d.createCommand name)) w.store).1.toOption.isSome⟩]
      | some _ => [] := by
  cases observed with
  | some observed => rfl
  | none =>
    have called := Task.exchanges_call (.command (d.createCommand name)) w
    rw [settle, Task.exchanges_bind, called]
    rcases Task.run (Task.call (.command (d.createCommand name))) w with ⟨_ | _, w'⟩ <;> simp

theorem exchanges_ensure_of_none (unknown : w.verdicts.get? name = none) (d : IndexDescriptor) :
    Task.exchanges (ensure name d) w = Task.exchanges (inspect name) w ++
      match Task.run (inspect name) w with
      | (.ok observed, w') => Task.exchanges (settle name d observed) w'
      | (.error _, _) => [] := by
  have settles (observed : Option ObservedIndex) (w : World Database) :
      Task.exchanges (do
        let status ← settle name d observed
        Task.remember name status) w = Task.exchanges (settle name d observed) w := by
    rw [Task.exchanges_bind]
    rcases Task.run (settle name d observed) w with ⟨_ | _, w'⟩ <;> simp
  rw [ensure, Task.exchanges_bind, Task.run_verdict, unknown]
  simp only [Task.exchanges_verdict, List.nil_append]
  rw [Task.exchanges_bind]
  rcases Task.run (inspect name) w with ⟨_ | observed, w'⟩
  · rfl
  · exact congrArg _ (settles observed w')

theorem exchanges_ensure_unseen (online : w.store.offline = false)
    (unknown : w.verdicts.get? name = none) (unseen : w.store.reported name = none)
    (named : name.isEmpty = false) (d : IndexDescriptor) : ∃ passed,
    Task.exchanges (ensure name d) w =
      [⟨.command (Document.command listIndexesCommand name), passed⟩,
        ⟨.command (d.createCommand name), (DocumentStore.perform (.command (d.createCommand name))
          (w.looked name).store).1.toOption.isSome⟩] := by
  obtain ⟨passed, inspected⟩ := exchanges_inspect name w
  refine ⟨passed, ?_⟩
  rw [exchanges_ensure_of_none unknown, inspected, run_inspect_online online, unseen, named]
  exact congrArg _ (exchanges_settle name d none _)

end Upkeep

end MemoryBank
