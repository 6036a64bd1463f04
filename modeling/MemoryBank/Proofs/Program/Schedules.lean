import MemoryBank.Program.Pool
import MemoryBank.Proofs.Store.Catalogues

set_option autoImplicit false

/-!
Programs that share a store and the verdicts on its indexes, in any schedule. A program heeds a
collection if it only remembers a verdict that its last step has shown, and forgets the verdict
right after it has dropped the collection. What then goes wrong can only be a drop between these two
steps of another program.
-/

namespace MemoryBank

namespace Step

/-- The kinds of index that a collection must have for a step to be answered like this. -/
def Shows (collection : String) : (s : Step) → s.Answer → IndexKind → Prop
  | call c, r, kind => ∀ db : Database, db.Sound → (DocumentStore.perform c db).1 = r →
      (DocumentStore.perform c db).2.Carries collection kind
  | _, _, _ => False

def Drops (collection : String) : (s : Step) → s.Answer → Prop
  | call c, r => c.drops collection = true ∧ r.toOption.isSome = true
  | _, _ => False

def Remembers (collection : String) (shown : IndexKind → Prop) : Step → Prop
  | remember name status => name = collection → shown status.effective
  | _ => True

end Step

namespace Program

variable {α β : Type}

def Forgets (collection : String) : Program α → Prop
  | step (.forget name) _ => name = collection
  | _ => False

/-- What is shown before a program suffices for the verdicts it remembers, and for what its end is
said to show. -/
def Heeds (collection : String) (ends : α → IndexKind → Prop) :
    (IndexKind → Prop) → Program α → Prop
  | shown, done a => ∀ kind, ends a kind → shown kind
  | shown, step s next => s.Remembers collection shown ∧
      ∀ r, Heeds collection ends (s.Shows collection r) (next r) ∧
        (s.Drops collection r → (next r).Forgets collection)

theorem Forgets.eq_forget {collection : String} {s : Step} {next : s.Answer → Program α}
    (forgets : (step s next).Forgets collection) : s = .forget collection := by
  cases s with
  | forget name => exact congrArg Step.forget forgets
  | _ => exact forgets.elim

theorem Heeds.mono {collection : String} {ends : α → IndexKind → Prop}
    {shown more : IndexKind → Prop} {p : Program α} (heeds : p.Heeds collection ends shown)
    (wider : ∀ kind, shown kind → more kind) : p.Heeds collection ends more := by
  cases p with
  | done a => exact fun kind shows => wider kind (heeds kind shows)
  | step s next =>
    refine ⟨?_, heeds.2⟩
    cases s with
    | remember name status => exact fun same => wider _ (heeds.1 same)
    | _ => trivial

theorem Forgets.bind {collection : String} {p : Program α} (forgets : p.Forgets collection)
    (f : α → Program β) : (p.bind f).Forgets collection := by
  cases p with
  | done a => cases forgets
  | step s next =>
    obtain rfl := forgets.eq_forget
    exact forgets

theorem Heeds.bind {collection : String} {middle : α → IndexKind → Prop}
    {ends : β → IndexKind → Prop} {shown : IndexKind → Prop} {p : Program α} {f : α → Program β}
    (first : p.Heeds collection middle shown)
    (behind : ∀ a, (f a).Heeds collection ends (middle a)) :
    (p.bind f).Heeds collection ends shown := by
  induction p generalizing shown with
  | done a => exact (behind a).mono first
  | step s next ih =>
    exact ⟨first.1, fun r => ⟨ih r (first.2 r).1, fun drops => ((first.2 r).2 drops).bind f⟩⟩

end Program

namespace Database

/-- The collection has gone from one state to the other. -/
def lost (collection : String) (db db' : Database) : Bool :=
  (db.find? collection).isSome && (db'.find? collection).isNone

end Database

namespace Step

variable {collection : String}

theorem perform_sound (s : Step) {w : World Database} (sound : w.store.Sound) :
    (s.perform w).2.store.Sound := by
  cases s with
  | call c => exact sound.perform c
  | remember name status =>
    simp only [Step.perform]
    split <;> exact sound
  | verdict _ | forget _ | newId => exact sound

theorem perform_carries (s : Step) {w : World Database} {kind : IndexKind}
    (carried : w.store.Carries collection kind) :
    (s.perform w).2.store.Carries collection kind ∨
      s.Drops collection (s.perform w).1 ∧
        w.store.lost collection (s.perform w).2.store = true := by
  cases s with
  | call c =>
    refine (carried.perform c).imp_right fun ⟨drops, passed, gone⟩ => ⟨⟨drops, passed⟩, ?_⟩
    obtain ⟨there, found, -⟩ := carried
    change ((w.store.find? collection).isSome &&
      ((DocumentStore.perform c w.store).2.find? collection).isNone) = true
    rw [found, gone]
    rfl
  | remember name status =>
    left
    simp only [Step.perform]
    split <;> exact carried
  | verdict _ | forget _ | newId => exact .inl carried

theorem carries_of_shows (s : Step) {w : World Database} (sound : w.store.Sound) {kind : IndexKind}
    (shows : s.Shows collection (s.perform w).1 kind) :
    (s.perform w).2.store.Carries collection kind := by
  cases s with
  | call c => exact shows w.store sound rfl
  | _ => exact shows.elim

/-- A verdict that stands after a step stood before it or has been remembered in it. -/
theorem perform_verdict (s : Step) {w : World Database} {status : IndexStatus}
    (stands : (s.perform w).2.verdicts.get? collection = some status) :
    (w.verdicts.get? collection = some status ∧ s ≠ .forget collection) ∨
      (w.verdicts.get? collection = none ∧ s = .remember collection status ∧
        (s.perform w).2.store = w.store) := by
  cases s with
  | call _ | verdict _ | newId => exact .inl ⟨stands, nofun⟩
  | forget name =>
    have erased : (w.verdicts.erase name).get? collection = some status := stands
    rw [NameMap.get?_erase] at erased
    split at erased
    · cases erased
    · next other => exact .inl ⟨erased, fun same => other (Step.forget.inj same).symm⟩
  | remember name remembered =>
    simp only [Step.perform] at stands ⊢
    cases before : w.verdicts.get? name with
    | some standing =>
      rw [before] at stands
      exact .inl ⟨stands, nofun⟩
    | none =>
      rw [before] at stands
      have inserted : (w.verdicts.insert name remembered).get? collection = some status := stands
      rw [NameMap.get?_insert] at inserted
      split at inserted
      · next same =>
        obtain rfl := same
        obtain rfl := Option.some.inj inserted
        exact .inr ⟨before, rfl, rfl⟩
      · exact .inl ⟨inserted, nofun⟩

end Step

/-- What an observer of a run notes about a collection. -/
structure Watch where
  -- Programs since whose last step the collection has been dropped.
  late : Nat → Bool
  -- The verdict that stands was remembered by a program that was late.
  stale : Bool

namespace Watch

def start : Watch := ⟨fun _ => false, false⟩

/-- What is noted when one of the programs has taken a step. -/
def note (collection : String) (n : Nat) (w w' : World Database) (watch : Watch) : Watch where
  late m := if m = n then false else watch.late m || w.store.lost collection w'.store
  stale :=
    match w.verdicts.get? collection, w'.verdicts.get? collection with
    | none, some _ => watch.late n
    | some _, some _ => watch.stale
    | _, none => false

theorem note_late {collection : String} {n m : Nat} {w w' : World Database} {watch : Watch}
    (other : m ≠ n) (early : (watch.note collection n w w').late m = false) :
    watch.late m = false ∧ w.store.lost collection w'.store = false := by
  simpa [note, other] using early

end Watch

/-- The verdict that stands on a collection, if any, is right about the index it has. -/
def World.Verified (collection : String) (w : World Database) : Prop :=
  ∀ status, w.verdicts.get? collection = some status →
    w.store.Carries collection status.effective

namespace Pool

variable {α : Type}

theorem advance_eq {σ : Type} [DocumentStore σ] (n : Nat) (ps : List (Program α)) (w : World σ) :
    advance n ps w =
      match ps[n]? with
      | some p => (ps.set n (p.advance w).1, (p.advance w).2)
      | none => (ps, w) := by
  induction ps generalizing n with
  | nil => cases n <;> rfl
  | cons p rest ih =>
    cases n with
    | zero => rfl
    | succ n =>
      rw [advance, ih, List.getElem?_cons_succ]
      cases rest[n]? <;> rfl

def watch (collection : String) :
    List Nat → List (Program α) → World Database → Watch → Watch
  | [], _, _, seen => seen
  | n :: schedule, ps, w, seen =>
      let (ps', w') := advance n ps w
      watch collection schedule ps' w' (seen.note collection n w w')

/-- What holds between any two steps of programs that heed a collection. -/
structure Kept (collection : String) (ps : List (Program α)) (w : World Database)
    (watch : Watch) : Prop where
  sound : w.store.Sound
  heeds : ∀ i p, ps[i]? = some p → ∃ ends shown, p.Heeds collection ends shown ∧
    (watch.late i = false → ∀ kind, shown kind → w.store.Carries collection kind)
  right : watch.stale = false → ∀ status, w.verdicts.get? collection = some status →
    w.store.Carries collection status.effective ∨
      ∃ (i : Nat) (p : Program α), ps[i]? = some p ∧ p.Forgets collection

variable {collection : String} {ps : List (Program α)} {w : World Database} {seen : Watch}
  {n : Nat}

theorem getElem?_set_of_some {β : Type} {xs : List β} {x y : β} (here : xs[n]? = some x) :
    (xs.set n y)[n]? = some y := by
  rw [List.getElem?_set_self (List.getElem?_eq_some_iff.mp here).1]

theorem Kept.idle (kept : Kept collection ps w seen)
    (noStep : ∀ s next, ps[n]? ≠ some (.step s next)) :
    Kept collection ps w (seen.note collection n w w) where
  sound := kept.sound
  heeds i p here := by
    by_cases same : i = n
    · obtain rfl := same
      -- a program that is done needs nothing shown
      cases p with
      | done a =>
        exact ⟨fun _ _ => False, fun _ => False, fun _ none => none, fun _ _ none => none.elim⟩
      | step s next => exact absurd here (noStep s next)
    · obtain ⟨ends, shown, heeds, carried⟩ := kept.heeds i p here
      exact ⟨ends, shown, heeds, fun early => carried (Watch.note_late same early).1⟩
  right fresh status stands := by
    refine kept.right ?_ status stands
    simpa [Watch.note, stands] using fresh

theorem Kept.step (kept : Kept collection ps w seen) {s : Step} {next : s.Answer → Program α}
    (here : ps[n]? = some (.step s next)) :
    Kept collection (ps.set n (next (s.perform w).1)) (s.perform w).2
      (seen.note collection n w (s.perform w).2) where
  sound := s.perform_sound kept.sound
  heeds i p there := by
    by_cases same : i = n
    · obtain rfl := same
      obtain ⟨ends, shown, heeds, -⟩ := kept.heeds i _ here
      rw [getElem?_set_of_some here] at there
      obtain rfl := Option.some.inj there
      exact ⟨ends, _, (heeds.2 _).1, fun _ _ shows => s.carries_of_shows kept.sound shows⟩
    · rw [List.getElem?_set_ne (Ne.symm same)] at there
      obtain ⟨ends, shown, heeds, carried⟩ := kept.heeds i p there
      refine ⟨ends, shown, heeds, fun early kind shows => ?_⟩
      obtain ⟨before, kept⟩ := Watch.note_late same early
      rcases s.perform_carries (carried before kind shows) with after | ⟨-, lost⟩
      · exact after
      · rw [kept] at lost
        cases lost
  right fresh status stands := by
    obtain ⟨ends, shown, heeds, carried⟩ := kept.heeds n _ here
    rcases s.perform_verdict stands with ⟨before, keeps⟩ | ⟨none, rfl, same⟩
    · have fresh : seen.stale = false := by simpa [Watch.note, before, stands] using fresh
      rcases kept.right fresh status before with carried | ⟨i, p, there, forgets⟩
      · refine (s.perform_carries carried).imp_right fun ⟨drops, _⟩ => ?_
        exact ⟨n, _, getElem?_set_of_some here, (heeds.2 _).2 drops⟩
      · by_cases same : i = n
        · obtain rfl := same
          obtain rfl := Option.some.inj (here.symm.trans there)
          exact absurd (Program.Forgets.eq_forget forgets) keeps
        · exact .inr ⟨i, p, (List.getElem?_set_ne (Ne.symm same)).trans there, forgets⟩
    · have early : seen.late n = false := by simpa [Watch.note, none, stands] using fresh
      rw [same]
      exact .inl (carried early _ (heeds.1 rfl))

theorem Kept.advance (kept : Kept collection ps w seen) (n : Nat) :
    Kept collection (advance n ps w).1 (advance n ps w).2
      (seen.note collection n w (advance n ps w).2) := by
  rw [advance_eq]
  cases here : ps[n]? with
  | none => exact kept.idle fun s next there => by simp [here] at there
  | some p =>
    cases p with
    | done a =>
      obtain ⟨_, same⟩ := List.getElem?_eq_some_iff.mp here
      have same : ps.set n (.done a) = ps := same ▸ List.set_getElem_self _
      simpa [Program.advance, same] using kept.idle fun s next there => by simp [here] at there
    | step s next => exact kept.step here

theorem Kept.follow (kept : Kept collection ps w seen) (schedule : List Nat) :
    Kept collection (follow schedule ps w).1 (follow schedule ps w).2
      (watch collection schedule ps w seen) := by
  induction schedule generalizing ps w seen with
  | nil => exact kept
  | cons n schedule ih => exact ih (kept.advance n)

theorem kept_start (sound : w.store.Sound) (verified : w.Verified collection)
    (heeds : ∀ p ∈ ps, ∃ ends, p.Heeds collection ends fun _ => False) :
    Kept collection ps w .start where
  sound := sound
  heeds _ p here := by
    obtain ⟨ends, heeds⟩ := heeds p (List.mem_of_getElem? here)
    exact ⟨ends, _, heeds, fun _ _ none => none.elim⟩
  right _ status stands := .inl (verified status stands)

end Pool

end MemoryBank
