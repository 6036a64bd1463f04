import MemoryBank.Program.Basic

set_option autoImplicit false

/-!
What a task does to a world, one step after another.
-/

namespace MemoryBank

instance : LawfulMonad Program :=
  LawfulMonad.mk' Program Program.bind_done (fun _ _ => rfl) Program.bind_assoc

namespace Task

variable {σ α β : Type} [DocumentStore σ]

@[simp] theorem run_pure (a : α) (w : World σ) : run (pure a) w = (.ok a, w) := rfl

@[simp] theorem run_throw (cause : Failure) (w : World σ) :
    run (throw cause : Task α) w = (.error cause, w) := rfl

@[simp] theorem run_ofResult (r : Result α) (w : World σ) : run (ofResult r) w = (r, w) := rfl

@[simp] theorem run_call (c : Call) (w : World σ) :
    run (call c) w =
      ((DocumentStore.perform c w.store).1,
        { w with store := (DocumentStore.perform c w.store).2 }) := rfl

theorem run_call_eq_ok {c : Call} {r : c.Reply} {w w' : World σ}
    (called : run (call c) w = (.ok r, w')) :
    DocumentStore.perform c w.store = (.ok r, w'.store) ∧ w'.verdicts = w.verdicts := by
  rw [run_call] at called
  obtain ⟨replied, rfl⟩ := Prod.mk.inj called
  exact ⟨Prod.ext replied rfl, rfl⟩

@[simp] theorem run_verdict (collection : String) (w : World σ) :
    run (verdict collection) w = (.ok (w.verdicts.get? collection), w) := rfl

theorem run_remember (collection : String) (status : IndexStatus) (w : World σ) :
    run (remember collection status) w =
      match w.verdicts.get? collection with
      | some standing => (Except.ok standing, w)
      | none => (Except.ok status, { w with verdicts := w.verdicts.insert collection status }) := by
  have shape : run (remember collection status) w =
      (.ok (Step.perform (.remember collection status) w).1,
        (Step.perform (.remember collection status) w).2) := rfl
  rw [shape]
  simp only [Step.perform]
  cases w.verdicts.get? collection <;> rfl

@[simp] theorem run_newId (w : World σ) :
    run newId w =
      (.ok (DocumentStore.newId w.store).1, { w with store := (DocumentStore.newId w.store).2 }) :=
  rfl

theorem run_bind (t : Task α) (f : α → Task β) (w : World σ) :
    run (t >>= f) w =
      match run t w with
      | (.ok a, w') => run (f a) w'
      | (.error cause, w') => (.error cause, w') := by
  change Program.run (Program.bind (ExceptT.run t) (ExceptT.bindCont f)) w = _
  rw [Program.run_bind]
  change Program.run (ExceptT.bindCont f (run t w).1) (run t w).2 = _
  cases outcome : run t w with
  | mk r w' => cases r <;> rfl

theorem run_lift (p : Program α) (w : World σ) :
    run (ExceptT.lift p) w = (.ok (Program.run p w).1, (Program.run p w).2) :=
  Program.run_bind p _ w

theorem run_discard (t : Task α) (w : World σ) :
    run (do let _ ← t) w = ((fun _ => ()) <$> (run t w).1, (run t w).2) := by
  rw [run_bind]
  rcases run t w with ⟨_ | _, w'⟩ <;> rfl

theorem run_bind_eq_ok {t : Task α} {f : α → Task β} {w w'' : World σ} {b : β}
    (h : run (t >>= f) w = (.ok b, w'')) :
    ∃ a w', run t w = (.ok a, w') ∧ run (f a) w' = (.ok b, w'') := by
  rw [run_bind] at h
  cases outcome : run t w with
  | mk r w' =>
    rw [outcome] at h
    cases r with
    | error cause => cases (Prod.mk.inj h).1
    | ok a => exact ⟨a, w', rfl, h⟩

/-- What every run of two tasks does to the world, their sequence does. -/
theorem run_bind_of_trans {R : World σ → World σ → Prop}
    (trans : ∀ {w w' w''}, R w w' → R w' w'' → R w w'') {t : Task α} {f : α → Task β}
    (first : ∀ w, R w (run t w).2) (behind : ∀ a w, R w (run (f a) w).2) (w : World σ) :
    R w (run (t >>= f) w).2 := by
  rw [run_bind]
  have before := first w
  cases outcome : run t w with
  | mk r w' =>
    rw [outcome] at before
    cases r with
    | error cause => exact before
    | ok a => exact trans before (behind a w')

theorem run_ok_of_map {t : Task α} {w : World σ} {f : α → β} {b : β}
    (passed : (run t w).1.toOption.map f = some b) :
    ∃ a w', run t w = (.ok a, w') ∧ f a = b := by
  cases outcome : run t w with
  | mk r w' =>
    rw [outcome] at passed
    cases r with
    | error cause => cases passed
    | ok a => exact ⟨a, w', rfl, Option.some.inj passed⟩

theorem run_ok_of_isSome {t : Task α} {w : World σ} (passed : (run t w).1.toOption.isSome = true) :
    ∃ a w', run t w = (.ok a, w') := by
  cases outcome : run t w with
  | mk r w' =>
    rw [outcome] at passed
    cases r with
    | error cause => cases passed
    | ok a => exact ⟨a, w', rfl⟩

end Task

end MemoryBank
