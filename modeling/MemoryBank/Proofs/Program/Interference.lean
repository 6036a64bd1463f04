import MemoryBank.Proofs.Program.Runs
import MemoryBank.Proofs.Program.Schedules
import MemoryBank.Proofs.Store.Operations

set_option autoImplicit false

/-!
Programs that share a world under a rule. Between two steps of one program the others may do
whatever the rule allows; if each program abides by it as long as the others do, all of them do, in
any schedule.
-/

namespace MemoryBank

/-- What holds of a shared world at any moment, and how it may change. -/
structure Rule (σ : Type) where
  Holds : World σ → Prop
  Allows : World σ → World σ → Prop
  refl : ∀ w, Allows w w
  trans : ∀ {w w' w''}, Allows w w' → Allows w' w'' → Allows w w''

namespace Rule

variable {σ : Type}

/-- The world can be found like this, sometime after it was like that. -/
structure Leads (rule : Rule σ) (w w' : World σ) : Prop where
  holds : rule.Holds w'
  allows : rule.Allows w w'

theorem Leads.refl {rule : Rule σ} {w : World σ} (holds : rule.Holds w) : rule.Leads w w :=
  ⟨holds, rule.refl w⟩

theorem Leads.trans {rule : Rule σ} {w w' w'' : World σ} (first : rule.Leads w w')
    (next : rule.Leads w' w'') : rule.Leads w w'' :=
  ⟨next.holds, rule.trans first.allows next.allows⟩

end Rule

variable {σ α β : Type} [DocumentStore σ]

namespace Program

/-- From this world on, no step of the program breaks the rule unless another program has, and `Q`
holds of what it ends with from then on. -/
def Abides (rule : Rule σ) (Q : α → World σ → Prop) : Program α → World σ → Prop
  | done a, w => ∀ w', rule.Leads w w' → Q a w'
  | step s next, w => ∀ w', rule.Leads w w' →
      rule.Leads w' (s.perform w').2 ∧ Abides rule Q (next (s.perform w').1) (s.perform w').2

variable {rule : Rule σ} {Q : α → World σ → Prop} {w w' : World σ} {p : Program α}

theorem Abides.later (abides : p.Abides rule Q w) (leads : rule.Leads w w') :
    p.Abides rule Q w' := by
  cases p with
  | done a => exact fun w'' further => abides w'' (leads.trans further)
  | step s next => exact fun w'' further => abides w'' (leads.trans further)

theorem abides_of_later (holds : ∀ w', rule.Leads w w' → p.Abides rule Q w') :
    p.Abides rule Q w := by
  cases p with
  | done a => exact fun w' leads => holds w' leads w' (.refl leads.holds)
  | step s next => exact fun w' leads => holds w' leads w' (.refl leads.holds)

theorem Abides.bind {M : α → World σ → Prop} {Q : β → World σ → Prop} {f : α → Program β}
    (first : p.Abides rule M w)
    (behind : ∀ a w', rule.Leads w w' → (∀ w'', rule.Leads w' w'' → M a w'') →
      (f a).Abides rule Q w') : (p.bind f).Abides rule Q w := by
  induction p generalizing w with
  | done a =>
    exact abides_of_later fun w' leads => behind a w' leads fun w'' further =>
      first w'' (leads.trans further)
  | step s next ih =>
    intro w' leads
    obtain ⟨stepped, abides⟩ := first w' leads
    exact ⟨stepped, ih _ abides fun a w'' further =>
      behind a w'' ((leads.trans stepped).trans further)⟩

theorem Abides.weaken {Q' : α → World σ → Prop} (abides : p.Abides rule Q w)
    (wider : ∀ a w', Q a w' → Q' a w') : p.Abides rule Q' w := by
  induction p generalizing w with
  | done a => exact fun w' leads => wider a w' (abides w' leads)
  | step s next ih =>
    exact fun w' leads => ⟨(abides w' leads).1, ih _ (abides w' leads).2⟩

theorem Abides.advance (abides : p.Abides rule Q w) (holds : rule.Holds w) :
    rule.Leads w (p.advance w).2 ∧ (p.advance w).1.Abides rule Q (p.advance w).2 := by
  cases p with
  | done a => exact ⟨.refl holds, abides⟩
  | step s next => exact abides w (.refl holds)

theorem Abides.run (abides : p.Abides rule Q w) (holds : rule.Holds w) :
    rule.Leads w (p.run w).2 ∧ Q (p.run w).1 (p.run w).2 := by
  induction p generalizing w with
  | done a => exact ⟨.refl holds, abides w (.refl holds)⟩
  | step s next ih =>
    obtain ⟨leads, after⟩ := abides w (.refl holds)
    obtain ⟨further, ends⟩ := ih _ after leads.holds
    exact ⟨leads.trans further, ends⟩

/-- So many steps are enough for the program, whatever it is answered. -/
def Within : Program α → Nat → Prop
  | done _, _ => True
  | step _ next, n => 0 < n ∧ ∀ r, Within (next r) (n - 1)

theorem Within.advance {n : Nat} (within : p.Within n) (w : World σ) :
    (p.advance w).1.Within (n - 1) := by
  cases p with
  | done a => exact trivial
  | step s next => exact within.2 _

theorem Within.done (within : p.Within 0) : ∃ a, p = .done a := by
  cases p with
  | done a => exact ⟨a, rfl⟩
  | step s next => exact absurd within.1 (Nat.lt_irrefl 0)

theorem eq_done_of_result? {a : α} (ended : p.result? = some a) : p = .done a := by
  cases p with
  | done b => rw [Option.some.inj ended]
  | step s next => cases ended

end Program

namespace Pool

variable {ps : List (Program α)} {w : World σ} {i : Nat}

theorem advance_fst_getElem? (n : Nat) {p : Program α} (here : ps[i]? = some p) :
    (advance n ps w).1[i]? = some (if i = n then (p.advance w).1 else p) := by
  rw [advance_eq]
  split_ifs with same
  · subst same
    rw [here]
    exact getElem?_set_of_some here
  · cases ps[n]? with
    | none => exact here
    | some _ => exact (List.getElem?_set_ne (Ne.symm same)).trans here

theorem length_advance (n : Nat) (ps : List (Program α)) (w : World σ) :
    (advance n ps w).1.length = ps.length := by
  rw [advance_eq]
  cases ps[n]? with
  | none => rfl
  | some p => exact List.length_set

theorem length_follow (schedule : List Nat) (ps : List (Program α)) (w : World σ) :
    (follow schedule ps w).1.length = ps.length := by
  induction schedule generalizing ps w with
  | nil => rfl
  | cons n schedule ih => exact (ih ..).trans (length_advance ..)

theorem abides_advance {rule : Rule σ} {Q : α → World σ → Prop} (holds : rule.Holds w)
    (abide : ∀ p ∈ ps, p.Abides rule Q w) (n : Nat) :
    rule.Leads w (advance n ps w).2 ∧
      ∀ p ∈ (advance n ps w).1, p.Abides rule Q (advance n ps w).2 := by
  rw [advance_eq]
  cases here : ps[n]? with
  | none => exact ⟨.refl holds, abide⟩
  | some p =>
    obtain ⟨leads, own⟩ := (abide p (List.mem_of_getElem? here)).advance holds
    refine ⟨leads, fun q member => ?_⟩
    rcases List.mem_or_eq_of_mem_set member with other | rfl
    · exact (abide q other).later leads
    · exact own

/-- If each program abides by a rule as long as the others do, all of them do. -/
theorem abides_follow {rule : Rule σ} {Q : α → World σ → Prop} (holds : rule.Holds w)
    (abide : ∀ p ∈ ps, p.Abides rule Q w) (schedule : List Nat) :
    rule.Leads w (follow schedule ps w).2 ∧
      ∀ p ∈ (follow schedule ps w).1, p.Abides rule Q (follow schedule ps w).2 := by
  induction schedule generalizing ps w with
  | nil => exact ⟨.refl holds, abide⟩
  | cons n schedule ih =>
    obtain ⟨leads, after⟩ := abides_advance holds abide n
    obtain ⟨further, later⟩ := ih leads.holds after
    exact ⟨leads.trans further, later⟩

theorem done_of_turns {n : Nat} {p : Program α} (here : ps[i]? = some p) (within : p.Within n)
    {schedule : List Nat} (turns : n ≤ schedule.count i) :
    ∃ a, (follow schedule ps w).1[i]? = some (.done a) := by
  induction schedule generalizing ps w p n with
  | nil =>
    obtain rfl : n = 0 := by simpa using turns
    obtain ⟨a, rfl⟩ := within.done
    exact ⟨a, here⟩
  | cons m schedule ih =>
    refine ih (advance_fst_getElem? m here) (n := if i = m then n - 1 else n) ?_ ?_
    · split_ifs
      · exact within.advance w
      · exact within
    · rw [List.count_cons] at turns
      split_ifs with same
      · subst same
        simp only [beq_self_eq_true, if_true] at turns
        omega
      · simpa [Ne.symm same] using turns

end Pool

namespace Task

variable {w : World σ}

/-- The task abides by the rule, and what it ends with is no failure. -/
def Succeeds (rule : Rule σ) (Q : α → World σ → Prop) (t : Task α) (w : World σ) : Prop :=
  Program.Abides rule (fun r w => ∃ a, r = .ok a ∧ Q a w) (ExceptT.run t) w

theorem Succeeds.bind {rule : Rule σ} {M : α → World σ → Prop} {Q : β → World σ → Prop}
    {t : Task α} {f : α → Task β} (first : t.Succeeds rule M w)
    (behind : ∀ a w', rule.Leads w w' → M a w' → (f a).Succeeds rule Q w') :
    (t >>= f).Succeeds rule Q w := by
  refine Program.Abides.bind (f := ExceptT.bindCont f) first fun r w' leads ends => ?_
  obtain ⟨a, rfl, between⟩ := ends w' (.refl leads.holds)
  exact behind a w' leads between

/-- The task abides by the rule, and `M` holds of what it ends with if that is no failure. -/
def Abides (rule : Rule σ) (M : α → World σ → Prop) (t : Task α) (w : World σ) : Prop :=
  Program.Abides rule (fun r w => ∀ a, r = .ok a → M a w) (ExceptT.run t) w

variable {rule : Rule σ} {M : α → World σ → Prop}

theorem Abides.bind {t : Task α} {f : α → Task β} {Q : β → World σ → Prop}
    (first : t.Abides rule M w)
    (behind : ∀ a w', rule.Leads w w' → M a w' → (f a).Abides rule Q w') :
    (t >>= f).Abides rule Q w := by
  refine Program.Abides.bind (f := ExceptT.bindCont f) first fun r w' leads ends => ?_
  cases r with
  | error cause => exact fun _ _ => nofun
  | ok a => exact behind a w' leads (ends w' (.refl leads.holds) a rfl)

theorem abides_ofResult {r : Result α} (ends : ∀ a w', r = .ok a → rule.Leads w w' → M a w') :
    (ofResult r).Abides rule M w := fun w' leads a same => ends a w' same leads

theorem abides_call {c : Call} {M : c.Reply → World σ → Prop}
    (leads : ∀ w', rule.Leads w w' →
      rule.Leads w' { w' with store := (DocumentStore.perform c w'.store).2 } ∧
        ∀ a w'', (DocumentStore.perform c w'.store).1 = .ok a →
          rule.Leads { w' with store := (DocumentStore.perform c w'.store).2 } w'' → M a w'') :
    (call c).Abides rule M w := fun w' later =>
  ⟨(leads w' later).1, fun w'' further a passed => (leads w' later).2 a w'' passed further⟩

theorem Abides.run {t : Task α} (abides : t.Abides rule M w) (holds : rule.Holds w) :
    rule.Leads w (Task.run t w).2 ∧ ∀ a, (Task.run t w).1 = .ok a → M a (Task.run t w).2 :=
  Program.Abides.run abides holds

/-- The task abides by the rule, from whatever world on and whatever it ends with. -/
def Observes (rule : Rule σ) (t : Task α) : Prop := ∀ w, t.Abides rule (fun _ _ => True) w

theorem observes_of_abides {t : Task α} (abides : ∀ w, t.Abides rule M w) : t.Observes rule :=
  fun w => (abides w).weaken fun _ _ _ _ _ => trivial

theorem closed_observes (rule : Rule σ) : Task.Closed fun _ t => t.Observes rule where
  result _ _ := fun _ _ _ _ => trivial
  bind first behind w := (first w).bind fun a w' _ _ => behind a w'

end Task

end MemoryBank
