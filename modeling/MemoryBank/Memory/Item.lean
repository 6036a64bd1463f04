import MemoryBank.Memory.Record

set_option autoImplicit false

/-!
Memories as an engine reports them, and what it reports about changes to them.
-/

namespace MemoryBank

inductive Event
  | add
  | update
  | delete
  -- Nothing new was stored.
  | noop
  deriving DecidableEq, Inhabited

structure AddOutcome where
  id : Option String
  memory : String
  event : Event
  deriving DecidableEq, Inhabited

structure MemoryItem where
  id : String
  memory : String
  metadata : Object
  score : Option Single
  deriving Inhabited

structure HistoryEntry where
  memoryId : String
  event : Event
  oldMemory : Option String
  newMemory : Option String
  createdAt : Option String
  deriving DecidableEq, Inhabited

namespace Event

def name : Event → String
  | add => "ADD"
  | update => "UPDATE"
  | delete => "DELETE"
  | noop => "NOOP"

def decode : Decoder Event :=
  Decode.variant ([add, update, delete, noop].map fun e => (e.name, e))

def toJson (e : Event) : Json := .string e.name

end Event

namespace AddOutcome

def nothing : AddOutcome := ⟨none, "", .noop⟩

def toJson (o : AddOutcome) : Json :=
  .object [("id", Json.ofOption .string o.id), ("memory", .string o.memory),
    ("event", o.event.toJson)]

def fields : List Field :=
  [.nullable "id" Decode.text, .required "memory" Decode.text, .required "event" Event.decode]

def decode (v : Json) : Except Mismatch AddOutcome := do
  let known ← Fields.read "AddOutcome" fields v
  return {
    id := ← Fields.get? known "id" Decode.text
    memory := ← Fields.get known "memory" Decode.text
    event := ← Fields.get known "event" Event.decode }

end AddOutcome

namespace MemoryItem

def ofStored (m : StoredMemory) : MemoryItem where
  -- The category and the expiry stand among the metadata.
  id := m.id
  memory := m.payload.content
  metadata :=
    let metadata := m.payload.metadata.insert "category" m.payload.category.toJson
    match m.payload.expiresAt with
    | some time => metadata.insert Payload.expiryKey (.ofInt time)
    | none => metadata
  score := m.score

def expiresAt (item : MemoryItem) : Option Int :=
  (item.metadata.get? Payload.expiryKey).bind (·.int?)

def isExpired (item : MemoryItem) (now : Int) : Bool :=
  match item.expiresAt with
  | some time => time ≤ now
  | none => false

def toJson (item : MemoryItem) : Json :=
  .object <|
    [("id", .string item.id), ("memory", .string item.memory), ("metadata", .object item.metadata)]
      ++ match item.score with
        | some score => [("score", .ofSingle score)]
        | none => []

def fields : List Field :=
  [.required "id" Decode.text, .required "memory" Decode.text,
    .defaulted "metadata" Decode.map, .optional "score" Decode.single]

def decode (v : Json) : Except Mismatch MemoryItem := do
  let known ← Fields.read "MemoryItem" fields v
  return {
    id := ← Fields.get known "id" Decode.text
    memory := ← Fields.get known "memory" Decode.text
    metadata := ← Fields.getD known "metadata" Decode.map []
    score := ← Fields.get? known "score" Decode.single }

end MemoryItem

namespace HistoryEntry

def toJson (e : HistoryEntry) : Json :=
  .object [("memory_id", .string e.memoryId), ("event", e.event.toJson),
    ("old_memory", Json.ofOption .string e.oldMemory),
    ("new_memory", Json.ofOption .string e.newMemory),
    ("created_at", Json.ofOption .string e.createdAt)]

def fields : List Field :=
  [.required "memory_id" Decode.text, .required "event" Event.decode,
    .optional "old_memory" Decode.text, .optional "new_memory" Decode.text,
    .optional "created_at" Decode.text]

def decode (v : Json) : Except Mismatch HistoryEntry := do
  let known ← Fields.read "HistoryEntry" fields v
  return {
    memoryId := ← Fields.get known "memory_id" Decode.text
    event := ← Fields.get known "event" Event.decode
    oldMemory := ← Fields.get? known "old_memory" Decode.text
    newMemory := ← Fields.get? known "new_memory" Decode.text
    createdAt := ← Fields.get? known "created_at" Decode.text }

end HistoryEntry

end MemoryBank
