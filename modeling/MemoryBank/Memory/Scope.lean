import MemoryBank.Decode.Fields
import MemoryBank.Filter.Condition

set_option autoImplicit false

/-!
Who a memory belongs to: a user, an agent, a session, or several of them.
-/

namespace MemoryBank

structure Scope where
  user : Option String
  agent : Option String
  session : Option String
  deriving DecidableEq, Inhabited

namespace Scope

def keys : List String := ["user_id", "agent_id", "run_id"]

def owners (s : Scope) : List (String × Option String) :=
  [("user_id", s.user), ("agent_id", s.agent), ("run_id", s.session)]

def isEmpty (s : Scope) : Bool :=
  -- An owner with an empty name is none.
  s.owners.all fun o => match o.2 with
    | none => true
    | some name => name.isEmpty

def validate (s : Scope) : Result Unit :=
  if s.isEmpty then .error (.validation .noOwner) else .ok ()

def entries (s : Scope) : Object :=
  s.owners.filterMap fun o => o.2.map fun name => (o.1, .string name)

def filters (s : Scope) : Filters :=
  .ofList <| s.owners.filterMap fun o => match o.2 with
    | some name => if name.isEmpty then none else some (o.1, .string name)
    | none => none

def toJson (s : Scope) : Json := .object s.entries

def fields : List Field :=
  [.optional "user_id" Decode.text, .optional "agent_id" Decode.text,
    (Field.optional "run_id" Decode.text).orNamed "session_id"]

def ofFields (known : Object) : Except Mismatch Scope := do
  return {
    user := ← Fields.get? known "user_id" Decode.text
    agent := ← Fields.get? known "agent_id" Decode.text
    session := ← Fields.get? known "run_id" Decode.text }

def decode (v : Json) : Except Mismatch Scope := do
  ofFields (← Fields.read "Scope" fields v)

def among (entries : Object) : Except Mismatch (Scope × Object) := do
  let (known, others) ← Fields.ofObject fields entries
  return (← ofFields known, others)

end Scope

end MemoryBank
