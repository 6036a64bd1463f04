import MemoryBank.Index.Status
import MemoryBank.NameMap

set_option autoImplicit false

/-!
Programs that talk to a document store and remember the verdicts on its indexes. A program is the
tree of its steps, each of which happens at once; what happens between two steps of one program is
for other programs to say.
-/

namespace MemoryBank

inductive Step
  | call (c : Call)
  -- Looks up the verdict remembered for a collection.
  | verdict (collection : String)
  -- Remembers a verdict, unless there is one already; the answer is the one that stands.
  | remember (collection : String) (status : IndexStatus)
  | forget (collection : String)
  | newId

@[reducible] def Step.Answer : Step → Type
  | call c => Result c.Reply
  | verdict _ => Option IndexStatus
  | remember _ _ => IndexStatus
  | forget _ => Unit
  | newId => String

inductive Program (α : Type) : Type
  | done (a : α)
  | step (s : Step) (next : s.Answer → Program α)

abbrev Task := ExceptT Failure Program

structure World (σ : Type) where
  store : σ
  verdicts : NameMap IndexStatus

namespace Program

variable {α β : Type}

def bind (p : Program α) (f : α → Program β) : Program β :=
  match p with
  | done a => f a
  | step s next => step s fun r => bind (next r) f

instance : Monad Program where
  pure := Program.done
  bind := Program.bind

def ask (s : Step) : Program s.Answer := step s done

@[simp] theorem pure_bind (a : α) (f : α → Program β) : bind (done a) f = f a := rfl

@[simp] theorem bind_done (p : Program α) : bind p done = p := by
  induction p with
  | done a => rfl
  | step s next ih => simp only [bind]; congr; funext r; exact ih r

theorem bind_assoc {γ : Type} (p : Program α) (f : α → Program β) (g : β → Program γ) :
    bind (bind p f) g = bind p fun a => bind (f a) g := by
  induction p with
  | done a => rfl
  | step s next ih => simp only [bind]; congr; funext r; exact ih r

end Program

def Step.perform {σ : Type} [DocumentStore σ] : (s : Step) → World σ → s.Answer × World σ
  | call c, w =>
      let (reply, store) := DocumentStore.perform c w.store
      (reply, { w with store := store })
  | verdict collection, w => (w.verdicts.get? collection, w)
  | remember collection status, w =>
      match w.verdicts.get? collection with
      | some standing => (standing, w)
      | none => (status, { w with verdicts := w.verdicts.insert collection status })
  | forget collection, w => ((), { w with verdicts := w.verdicts.erase collection })
  | newId, w =>
      let (id, store) := DocumentStore.newId w.store
      (id, { w with store := store })

namespace Program

variable {σ α : Type} [DocumentStore σ]

def run : Program α → World σ → α × World σ
  | done a, w => (a, w)
  | step s next, w =>
      let (r, w) := s.perform w
      run (next r) w

theorem run_bind {β : Type} (p : Program α) (f : α → Program β) (w : World σ) :
    run (bind p f) w = run (f (run p w).1) (run p w).2 := by
  induction p generalizing w with
  | done a => rfl
  | step s next ih => simp only [bind, run]; exact ih _ _

end Program

namespace Task

variable {σ α : Type} [DocumentStore σ]

def run (t : Task α) (w : World σ) : Result α × World σ := Program.run (ExceptT.run t) w

def call (c : Call) : Task c.Reply := ExceptT.mk (Program.ask (.call c))

def verdict (collection : String) : Task (Option IndexStatus) :=
  ExceptT.lift (Program.ask (.verdict collection))

def remember (collection : String) (status : IndexStatus) : Task IndexStatus :=
  ExceptT.lift (Program.ask (.remember collection status))

def forget (collection : String) : Task Unit := ExceptT.lift (Program.ask (.forget collection))

def newId : Task String := ExceptT.lift (Program.ask .newId)

def ofResult (r : Result α) : Task α := ExceptT.mk (Program.done r)

end Task

end MemoryBank
