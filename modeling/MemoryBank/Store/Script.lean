import MemoryBank.NameMap
import MemoryBank.Store.Call
import MemoryBank.Store.Identifier

set_option autoImplicit false

/-!
A document store that answers from a script and records every call. Each verb has its own list of
replies, of which the last is given again and again.
-/

namespace MemoryBank

inductive ScriptedReply
  | value (v : Json)
  | failure (cause : Failure)
  deriving Inhabited

structure Script where
  replies : NameMap (List ScriptedReply)
  -- Calls so far, oldest first.
  calls : List (String × Json)
  issued : Nat
  deriving Inhabited

def Failure.ofKind? (kind text : String) : Option Failure :=
  match kind with
  | "validation" => some (.validation (.reported text))
  | "store" => some (.store (.reported text))
  | "not_found" => some (.notFound (.reported text))
  | _ => none

namespace ScriptedReply

def ofJson (v : Json) : ScriptedReply :=
  match v with
  | .object o =>
      match Object.get? o "fail" with
      | some (.string kind) =>
          let text := ((Object.get? o "message").bind (·.string?)).getD ""
          match Failure.ofKind? kind text with
          | some cause => .failure cause
          | none => .value v
      | _ => .value v
  | v => .value v

end ScriptedReply

namespace Script

def ofReplies (replies : NameMap (List ScriptedReply)) : Script := ⟨replies, [], 0⟩

def take (verb : String) (s : Script) : Option ScriptedReply × Script :=
  match s.replies.get? verb with
  | none | some [] => (none, s)
  | some [r] => (some r, s)
  | some (r :: rest) => (some r, { s with replies := s.replies.insert verb rest })

def rows : Json → List Document
  | .array items => items.map Document.ofJson
  | _ => []

def texts : Json → List String
  | .array items => items.filterMap (·.string?)
  | _ => []

def count (v : Option Json) : Nat := (v.bind (·.nat?)).getD 0

def interpret (c : Call) (v : Json) : c.Reply :=
  match c with
  | .collectionNames => texts v
  | .createCollection _ => ()
  | .dropCollection _ => ()
  | .command _ => Document.ofJson v
  | .insert _ documents => documents.length
  | .find _ _ _ => rows v
  | .findOne _ _ => if v.isNull then none else some (Document.ofJson v)
  | .aggregate _ _ => rows v
  | .update _ _ _ =>
      let field (name : String) : Option Json := (Document.ofJson v).get? name
      ⟨count (field "matched"), count (field "modified")⟩
  | .deleteOne _ _ => count (some v)
  | .deleteMany _ _ => count (some v)

def unscripted (c : Call) : c.Reply :=
  match c with
  | .collectionNames => []
  | .createCollection _ => ()
  | .dropCollection _ => ()
  | .command _ => [("ok", .ofInt 1)]
  | .insert _ documents => documents.length
  | .find _ _ _ => []
  | .findOne _ _ => none
  | .aggregate _ _ => []
  | .update _ _ _ => ⟨0, 0⟩
  | .deleteOne _ _ => 0
  | .deleteMany _ _ => 0

def arrive (c : Call) (s : Script) : Script := { s with calls := s.calls ++ [(c.verb, c.argument)] }

def answer (c : Call) (s : Script) : Result c.Reply × Script :=
  match s.take c.verb with
  | (none, s) => (.ok (unscripted c), s)
  | (some (.value v), s) => (.ok (interpret c v), s)
  | (some (.failure cause), s) => (.error cause, s)

def newId (s : Script) : String × Script :=
  (identifier (s.issued + 1), { s with issued := s.issued + 1 })

instance : DocumentStore Script := ⟨arrive, answer, newId⟩

end Script

end MemoryBank
