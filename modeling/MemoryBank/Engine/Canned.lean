import MemoryBank.Engine.Basic
import MemoryBank.Store.Script

set_option autoImplicit false

/-!
An engine that gives prepared answers and records every call.
-/

namespace MemoryBank

structure Canned where
  answers : NameMap ScriptedReply
  -- Calls so far, oldest first.
  calls : List (String × Json)

namespace Canned

abbrev Action := ExceptT Failure (StateM Canned)

/-- A reported fault, for an answer that cannot be what the call asks for. -/
def undecodable (cause : Mismatch) : Failure := .store (.reported cause.message)

def reply (verb : String) (argument : Json) : Action Json := do
  modify fun c => { c with calls := c.calls ++ [(verb, argument)] }
  match (← get).answers.get? verb with
  | some (.value v) => return v
  | some (.failure cause) => throw cause
  | none => return .null

def decoded {α : Type} (decode : Decoder α) (v : Json) : Action α :=
  match decode v with
  | .ok a => return a
  | .error cause => throw (undecodable cause)

def engine : Engine (StateM Canned) where
  add := fun input scope metadata => do
    let v ← reply "add" (.object [("input", input.toJson), ("scope", scope.toJson),
      ("metadata", .object metadata)])
    decoded (Decode.optional AddOutcome.decode) v
  search := fun query scope limit filters => do
    let v ← reply "search" (.object [("query", .string query), ("scope", scope.toJson),
      ("limit", .ofNat limit), ("filters", .object filters.entries)])
    decoded (Decode.list MemoryItem.decode) v
  get := fun id => do decoded MemoryItem.decode (← reply "get" (.string id))
  getAll := fun scope limit => do
    let v ← reply "get_all" (.object [("scope", scope.toJson), ("limit", .ofNat limit)])
    decoded (Decode.list MemoryItem.decode) v
  update := fun id content => do
    let _ ← reply "update" (.array [.string id, .string content])
  delete := fun id => do
    let _ ← reply "delete" (.string id)
  history := fun id => do
    decoded (Decode.list HistoryEntry.decode) (← reply "history" (.string id))

end Canned

end MemoryBank
