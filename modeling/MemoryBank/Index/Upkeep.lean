import MemoryBank.Program.Basic

set_option autoImplicit false

/-!
Seeing to it that a collection has its vector index. An index that is there is never dropped or
changed, whatever its kind; the verdict is remembered, and the first one recorded stands.
-/

namespace MemoryBank.Upkeep

def inspect (collection : String) : Task (Option ObservedIndex) :=
  -- The vector index of a collection. A collection that is not there has none.
  ExceptT.mk do
    match ← Program.ask (.call (.command (Document.command listIndexesCommand collection))) with
    | .ok reply => return .ok (ObservedIndex.ofReply? reply)
    | .error cause => return if cause.isNotFound then .ok none else .error cause

def settle (collection : String) (d : IndexDescriptor) : Option ObservedIndex → Task IndexStatus
  | none => do
      let _ ← Task.call (.command (d.createCommand collection))
      return .created d
  | some observed => return .judge d.kind observed

def ensure (collection : String) (d : IndexDescriptor) : Task IndexStatus := do
  match ← Task.verdict collection with
  | some status => return status
  | none =>
      let observed ← inspect collection
      let status ← settle collection d observed
      Task.remember collection status

end MemoryBank.Upkeep
