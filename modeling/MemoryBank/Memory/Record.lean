import MemoryBank.Memory.Payload

set_option autoImplicit false

/-!
Memories as they are written to and read from the store.
-/

namespace MemoryBank

structure Record where
  id : String
  vector : Embedding
  payload : Payload

/-- A memory read back; `score` is there for the hits of a search. -/
structure StoredMemory where
  id : String
  score : Option Single
  payload : Payload
  deriving Inhabited

structure Change where
  content : Option String
  metadata : Option Object
  vector : Option Embedding

structure CollectionInfo where
  name : String
  count : Nat
  size : Nat

def Record.validate (r : Record) (dimensions : Nat) : Result Unit := do
  if r.id.isEmpty then throw (.validation .emptyId)
  if r.vector.length ≠ dimensions then
    throw (.validation (.recordDimensions r.id r.vector.length dimensions))
  if r.payload.scope.isEmpty then throw (.validation (.recordWithoutOwner r.id))

def Change.isEmpty (c : Change) : Bool := c.content.isNone && c.metadata.isNone && c.vector.isNone

namespace Embedding

def toJson (vector : Embedding) : Json := .array (vector.map .ofSingle)

def ofJson? : Json → Option Embedding
  | .array items => items.mapM fun v => v.float?.map Single.ofFloat
  | _ => none

end Embedding

namespace StoredMemory

def toJson (m : StoredMemory) : Json :=
  .object [("id", .string m.id), ("score", Json.ofOption Json.ofSingle m.score),
    ("payload", m.payload.toJson)]

def fields : List Field :=
  [.required "id" Decode.text, .nullable "score" Decode.single, .required "payload" Payload.decode]

def decode (v : Json) : Except Mismatch StoredMemory := do
  let known ← Fields.read "StoredMemory" fields v
  return {
    id := ← Fields.get known "id" Decode.text
    score := ← Fields.get? known "score" Decode.single
    payload := ← Fields.get known "payload" Payload.decode }

end StoredMemory

namespace CollectionInfo

def toJson (i : CollectionInfo) : Json :=
  .object [("name", .string i.name), ("count", .ofNat i.count), ("size", .ofNat i.size)]

def fields : List Field :=
  [.required "name" Decode.text, .required "count" Decode.word64, .required "size" Decode.word64]

def decode (v : Json) : Except Mismatch CollectionInfo := do
  let known ← Fields.read "CollectionInfo" fields v
  return {
    name := ← Fields.get known "name" Decode.text
    count := ← Fields.get known "count" Decode.word64
    size := ← Fields.get known "size" Decode.word64 }

end CollectionInfo

end MemoryBank
