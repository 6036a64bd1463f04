import MemoryBank.Program.Pool
import MemoryBank.Service.Basic

set_option autoImplicit false

/-!
Batches whose items share the store in rounds.
-/

namespace MemoryBank.Service

variable {σ α : Type} [DocumentStore σ]

/-- More rounds than any item of a batch has calls. -/
def roundLimit : Nat := 100

def together (s : Service Program) (tasks : List (Task α)) (w : World σ) :
    Result (BatchResponse α) × World σ :=
  match s.coordinator.checkSize tasks.length with
  | .error cause => (.error cause, w)
  | .ok () =>
      let (results, w) := Pool.runTogether roundLimit (tasks.map ExceptT.run) w
      (.ok (Coordinator.respond (results.getD [])), w)

end MemoryBank.Service
