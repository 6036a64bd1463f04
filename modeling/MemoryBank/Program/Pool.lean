import MemoryBank.Program.Basic

set_option autoImplicit false

/-!
Programs that share a world. A schedule says which program goes on next, one step at a time. In
rounds, every program has its call noted before any call of the round is answered.
-/

namespace MemoryBank

variable {σ α : Type} [DocumentStore σ]

namespace Program

def advance : Program α → World σ → Program α × World σ
  | done a, w => (done a, w)
  | step s next, w =>
      let (r, w) := s.perform w
      (next r, w)

def result? : Program α → Option α
  | done a => some a
  | step _ _ => none

/-- Goes on up to the next call, which then arrives at the store. -/
def settle : Program α → World σ → Program α × World σ
  | done a, w => (done a, w)
  | step (.call c) next, w =>
      (step (.call c) next, { w with store := DocumentStore.arrive c w.store })
  | step (.verdict collection) next, w =>
      settle (next (w.verdicts.get? collection)) w
  | step (.remember collection status) next, w =>
      let (r, w) := (Step.remember collection status).perform w
      settle (next r) w
  | step (.forget collection) next, w =>
      let (r, w) := (Step.forget collection).perform w
      settle (next r) w
  | step .newId next, w =>
      let (r, w) := Step.newId.perform w
      settle (next r) w

def resume : Program α → World σ → Program α × World σ
  | done a, w => (done a, w)
  | step (.call c) next, w =>
      let (r, store) := DocumentStore.answer c w.store
      settle (next r) { w with store := store }
  | step s next, w => settle (step s next) w

end Program

namespace Pool

def advance : Nat → List (Program α) → World σ → List (Program α) × World σ
  | _, [], w => ([], w)
  | 0, p :: rest, w =>
      let (p, w) := p.advance w
      (p :: rest, w)
  | n + 1, p :: rest, w =>
      let (rest, w) := advance n rest w
      (p :: rest, w)

def follow : List Nat → List (Program α) → World σ → List (Program α) × World σ
  | [], ps, w => (ps, w)
  | n :: schedule, ps, w =>
      let (ps, w) := advance n ps w
      follow schedule ps w

def each (f : Program α → World σ → Program α × World σ) :
    List (Program α) → World σ → List (Program α) × World σ
  | [], w => ([], w)
  | p :: rest, w =>
      let (p, w) := f p w
      let (rest, w) := each f rest w
      (p :: rest, w)

/-- At most so many rounds; the results are there once all programs are done. -/
def rounds : Nat → List (Program α) → World σ → Option (List α) × World σ
  | 0, ps, w => (ps.mapM Program.result?, w)
  | fuel + 1, ps, w =>
      match ps.mapM Program.result? with
      | some results => (some results, w)
      | none =>
          let (ps, w) := each Program.resume ps w
          rounds fuel ps w

def runTogether (limit : Nat) (ps : List (Program α)) (w : World σ) :
    Option (List α) × World σ :=
  let (ps, w) := each Program.settle ps w
  rounds limit ps w

def runInTurn : List (Program α) → World σ → List α × World σ
  | [], w => ([], w)
  | p :: rest, w =>
      let (a, w) := p.run w
      let (as, w) := runInTurn rest w
      (a :: as, w)

end Pool

end MemoryBank
