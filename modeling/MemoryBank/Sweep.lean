import MemoryBank.Filter.Predicate
import MemoryBank.Program.Basic

set_option autoImplicit false

/-!
Sweeping expired memories out of a collection. This is the only deletion that needs no owner.
-/

namespace MemoryBank

structure SweepReport where
  deleted : Nat
  -- The ids that were found just before the deletion.
  ids : List String
  deriving DecidableEq, Inhabited

namespace Sweep

def expired (now : Int) : Document :=
  [(storedPayloadPath ++ Payload.expiryKey,
    .object [("$exists", .bool true), ("$lte", .ofInt now)])]

def run (collection : String) (now : Int) : Task SweepReport := do
  let found ← Task.call (.find collection (expired now) none)
  let deleted ← Task.call (.deleteMany collection (expired now))
  return ⟨deleted, found.filterMap (·.id?)⟩

end Sweep

end MemoryBank
