import MemoryBank.Batch.Outcome

set_option autoImplicit false

/-!
Running a batch. All items are dispatched at once, in their order, and finish in any order; what has
not finished by the deadline is reported as timed out and left to run. A batch that is too large is
refused before anything is dispatched.
-/

namespace MemoryBank

structure Coordinator where
  maxSize : Nat
  -- Milliseconds to wait for the items.
  timeout : Option Nat

inductive Ending (α : Type)
  | value (a : α)
  | failure (cause : Failure)
  -- It broke off, perhaps with a message.
  | panic (message : Option String)

structure Completion (α : Type) where
  index : Nat
  ending : Ending α

structure Job (α : Type) where
  delay : Option Nat
  ending : Ending α

/-- What a run leaves: the results, which items were dispatched, and which had ended when it
returned and later. -/
structure BatchRun (α : Type) where
  results : List (ItemResult α)
  dispatched : List Nat
  endedAtReturn : List Nat
  endedLater : List Nat

def Ending.ofResult {α : Type} : Result α → Ending α
  | .ok a => .value a
  | .error cause => .failure cause

def Ending.report {α : Type} (index : Nat) : Ending α → ItemResult α
  | value a => .succeeded index a
  | failure cause => .failed index cause.message
  | panic (some message) => .failed index ("panicked: " ++ message)
  | panic none => .failed index "panicked: unknown panic"

namespace Coordinator

variable {α : Type}

def defaultMaxSize : Nat := 50

def timedOut : String := "timed out"

def ofSize (maxSize : Nat) : Coordinator := ⟨maxSize, none⟩

def checkSize (c : Coordinator) (size : Nat) : Result Unit :=
  if c.maxSize < size then .error (.validation (.batchTooLarge size c.maxSize)) else .ok ()

def gather (total : Nat) (late : String) (completions : List (Completion α)) :
    List (ItemResult α) :=
  -- One result for each of `total` items, from the completions gathered in any order.
  (List.range total).map fun i =>
    match completions.find? (·.index == i) with
    | some c => c.ending.report i
    | none => .failed i late

def inTime (c : Coordinator) (job : Job α) : Bool :=
  match c.timeout, job.delay with
  | some limit, some delay => delay < limit
  | _, _ => true

def endingOrder (jobs : List (Job α)) : List (Job α × Nat) :=
  jobs.zipIdx.mergeSort fun a b => a.1.delay.getD 0 ≤ b.1.delay.getD 0

def completions (c : Coordinator) (jobs : List (Job α)) : List (Completion α) :=
  (endingOrder jobs).filterMap fun j => if c.inTime j.1 then some ⟨j.2, j.1.ending⟩ else none

def run (c : Coordinator) (jobs : List (Job α)) : Result (BatchRun α) := do
  c.checkSize jobs.length
  return {
    results := gather jobs.length timedOut (c.completions jobs)
    dispatched := List.range jobs.length
    endedAtReturn := jobs.zipIdx.filterMap fun j => if c.inTime j.1 then some j.2 else none
    endedLater := List.range jobs.length }

def respond (results : List (Result α)) : BatchResponse α :=
  .ofResults <| gather results.length timedOut <|
    results.zipIdx.map fun r => ⟨r.2, .ofResult r.1⟩

end Coordinator

end MemoryBank
