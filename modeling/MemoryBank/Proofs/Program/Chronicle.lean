import MemoryBank.Proofs.Program.Interference

set_option autoImplicit false

/-!
Programs that share a world, with notes on what they have done. What a program may count on can
depend on a step that another has taken long ago and that the world no longer shows; the proof notes
it down when it happens, and what has been noted stays noted.
-/

namespace MemoryBank

/-- What holds of a shared world and the notes on its history, and how notes may grow. -/
structure Chronicle (σ γ : Type) where
  Holds : γ → World σ → Prop
  Extends : γ → γ → Prop
  refl : ∀ g, Extends g g
  trans : ∀ {g g' g''}, Extends g g' → Extends g' g'' → Extends g g''

variable {σ γ α β : Type} [DocumentStore σ] {c : Chronicle σ γ}

namespace Program

/-- After each step of the program the notes can be extended so that the chronicle holds, as long as
it does for the steps of others; `Q` holds of what the program ends with from then on. -/
def Records (c : Chronicle σ γ) (Q : α → γ → Prop) : Program α → γ → Prop
  | done a, g => ∀ g', c.Extends g g' → Q a g'
  | step s next, g => ∀ g' w, c.Extends g g' → c.Holds g' w →
      ∃ g'', c.Extends g' g'' ∧ c.Holds g'' (s.perform w).2 ∧
        Records c Q (next (s.perform w).1) g''

variable {Q : α → γ → Prop} {g g' : γ} {w : World σ} {p : Program α}

theorem Records.later (records : p.Records c Q g) (extends' : c.Extends g g') :
    p.Records c Q g' := by
  cases p with
  | done a => exact fun g'' further => records g'' (c.trans extends' further)
  | step s next => exact fun g'' w further => records g'' w (c.trans extends' further)

theorem Records.bind {M : α → γ → Prop} {Q : β → γ → Prop} {f : α → Program β}
    (first : p.Records c M g)
    (behind : ∀ a g', c.Extends g g' → M a g' → (f a).Records c Q g') :
    (p.bind f).Records c Q g := by
  induction p generalizing g with
  | done a => exact behind a g (c.refl g) (first g (c.refl g))
  | step s next ih =>
    intro g' w noted holds
    obtain ⟨g'', more, after, records⟩ := first g' w noted holds
    exact ⟨g'', more, after, ih _ records fun a g₁ further =>
      behind a g₁ (c.trans (c.trans noted more) further)⟩

theorem Records.advance (records : p.Records c Q g) (holds : c.Holds g w) :
    ∃ g', c.Extends g g' ∧ c.Holds g' (p.advance w).2 ∧ (p.advance w).1.Records c Q g' := by
  cases p with
  | done a => exact ⟨g, c.refl g, holds, records⟩
  | step s next => exact records g w (c.refl g) holds

end Program

namespace Pool

variable {Q : α → γ → Prop} {ps : List (Program α)} {g : γ} {w : World σ}

theorem records_advance (holds : c.Holds g w) (record : ∀ p ∈ ps, p.Records c Q g) (n : Nat) :
    ∃ g', c.Extends g g' ∧ c.Holds g' (advance n ps w).2 ∧
      ∀ p ∈ (advance n ps w).1, p.Records c Q g' := by
  rw [advance_eq]
  cases here : ps[n]? with
  | none => exact ⟨g, c.refl g, holds, record⟩
  | some p =>
    obtain ⟨g', noted, after, own⟩ := (record p (List.mem_of_getElem? here)).advance holds
    refine ⟨g', noted, after, fun q member => ?_⟩
    rcases List.mem_or_eq_of_mem_set member with other | rfl
    · exact (record q other).later noted
    · exact own

theorem follow_append (before after : List Nat) (ps : List (Program α)) (w : World σ) :
    follow (before ++ after) ps w =
      follow after (follow before ps w).1 (follow before ps w).2 := by
  induction before generalizing ps w with
  | nil => rfl
  | cons n before ih => exact ih ..

/-- If each program records a chronicle as long as the others do, all of them do. -/
theorem records_follow (holds : c.Holds g w) (record : ∀ p ∈ ps, p.Records c Q g)
    (schedule : List Nat) :
    ∃ g', c.Extends g g' ∧ c.Holds g' (follow schedule ps w).2 ∧
      ∀ p ∈ (follow schedule ps w).1, p.Records c Q g' := by
  induction schedule generalizing ps g w with
  | nil => exact ⟨g, c.refl g, holds, record⟩
  | cons n schedule ih =>
    obtain ⟨g', noted, after, record'⟩ := records_advance holds record n
    obtain ⟨g'', more, ended, record''⟩ := ih after record'
    exact ⟨g'', c.trans noted more, ended, record''⟩

end Pool

namespace Task

variable {M : α → γ → Prop} {g : γ}

/-- The task records the chronicle, and `M` holds of what it ends with if that is no failure. -/
def Records (c : Chronicle σ γ) (M : α → γ → Prop) (t : Task α) (g : γ) : Prop :=
  Program.Records c (fun r g => ∀ a, r = .ok a → M a g) (ExceptT.run t) g

theorem Records.bind {t : Task α} {f : α → Task β} {Q : β → γ → Prop} (first : t.Records c M g)
    (behind : ∀ a g', c.Extends g g' → M a g' → (f a).Records c Q g') :
    (t >>= f).Records c Q g := by
  refine Program.Records.bind (f := ExceptT.bindCont f) first fun r g' noted ends => ?_
  cases r with
  | error cause => exact fun _ _ _ => nofun
  | ok a => exact behind a g' noted (ends a rfl)

theorem records_ofResult {r : Result α} (ends : ∀ a g', r = .ok a → c.Extends g g' → M a g') :
    (ofResult r).Records c M g := fun g' noted a same => ends a g' same noted

theorem records_call {call : Call} {M : call.Reply → γ → Prop}
    (keeps : ∀ g' w, c.Extends g g' → c.Holds g' w →
      ∃ g'', c.Extends g' g'' ∧
        c.Holds g'' { w with store := (DocumentStore.perform call w.store).2 } ∧
        ∀ a g₁, (DocumentStore.perform call w.store).1 = .ok a → c.Extends g'' g₁ → M a g₁) :
    (Task.call call).Records c M g := fun g' w noted holds => by
  obtain ⟨g'', more, after, ends⟩ := keeps g' w noted holds
  exact ⟨g'', more, after, fun g₁ further a passed => ends a g₁ passed further⟩

/-- The task records the chronicle, whatever has been noted and whatever it ends with. -/
def Respects (c : Chronicle σ γ) (t : Task α) : Prop := ∀ g, t.Records c (fun _ _ => True) g

theorem Records.respects {t : Task α} (records : ∀ g, t.Records c M g) : t.Respects c := by
  intro g
  have ends := Program.Records.bind (f := .done) (records g)
    (Q := fun r g => ∀ a, r = .ok a → True) fun _ _ _ _ _ _ _ _ => trivial
  rwa [Program.bind_done] at ends

theorem closed_respects (c : Chronicle σ γ) : Task.Closed fun _ t => t.Respects c where
  result _ _ := fun _ _ _ _ => trivial
  bind first behind g := (first g).bind fun a g' _ _ => behind a g'

end Task

end MemoryBank
