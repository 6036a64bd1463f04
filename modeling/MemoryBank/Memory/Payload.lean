import MemoryBank.Memory.Category
import MemoryBank.Memory.Scope

set_option autoImplicit false

/-!
The payload of a stored memory. Its document is flat: the metadata stand beside the typed entries,
whose keys they may not take.
-/

namespace MemoryBank

structure Payload where
  content : String
  category : Category
  scope : Scope
  -- Unix seconds from which on the memory is expired.
  expiresAt : Option Int
  metadata : Object
  deriving Inhabited

namespace Payload

def reservedKeys : List String :=
  ["data", "category", "user_id", "agent_id", "run_id", "expires_at"]

def expiryKey : String := "expires_at"

def new (content : String) (category : Category) (scope : Scope) : Payload where
  content := content
  category := category
  scope := scope
  expiresAt := none
  metadata := []

def withExpiry (p : Payload) (time : Int) : Payload := { p with expiresAt := some time }

def mergeMetadata (p : Payload) (metadata : Object) : Payload :=
  { p with
    metadata := p.metadata.insertAll (metadata.filter fun e => !reservedKeys.contains e.1) }

def isExpired (p : Payload) (now : Int) : Bool :=
  -- A memory is expired at its expiry, not only after it.
  match p.expiresAt with
  | some time => time ≤ now
  | none => false

def typedEntries (p : Payload) : Object :=
  ("data", .string p.content) :: ("category", p.category.toJson) :: (p.scope.entries ++
    match p.expiresAt with
    | some time => [(expiryKey, .ofInt time)]
    | none => [])

def toDocument (p : Payload) : Document := p.typedEntries.insertAll p.metadata

def toJson (p : Payload) : Json := .object p.toDocument

def fields : List Field :=
  [.required "data" Decode.text, .required "category" Category.decode,
    .optional expiryKey Decode.int64]

def ofObject (o : Object) : Except Mismatch Payload := do
  let (known, others) ← Fields.ofObject fields o
  let (scope, metadata) ← Scope.among others
  return {
    content := ← Fields.get known "data" Decode.text
    category := ← Fields.get known "category" Category.decode
    scope := scope
    expiresAt := ← Fields.get? known expiryKey Decode.int64
    metadata := metadata }

def decode : Decoder Payload
  | .object o => ofObject o
  | v => Decode.mismatch "struct MemoryPayload" v

def ofDocument (d : Document) : Result Payload :=
  match ofObject d with
  | .ok p => .ok p
  | .error cause => .error (.store (.malformedPayload cause))

def same (p q : Payload) : Bool :=
  p.content == q.content && p.category == q.category && p.scope == q.scope
    && p.expiresAt == q.expiresAt && p.metadata.same q.metadata

end Payload

end MemoryBank
