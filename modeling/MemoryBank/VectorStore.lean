import MemoryBank.Filter.Predicate
import MemoryBank.Index.Upkeep
import MemoryBank.Settings.Config
import MemoryBank.Sorting
import MemoryBank.Store.SimilarityQuery

set_option autoImplicit false

/-!
Memories kept in a document store: one document for each, with its id, its vector and its payload.
What makes a request invalid is found before the store is called.
-/

namespace MemoryBank

structure VectorStore where
  settings : Settings

def payloadKey : String := "payload"

def Record.toDocument (r : Record) : Document :=
  [(Document.idKey, .string r.id), (vectorPath, r.vector.toJson),
    (payloadKey, .object r.payload.toDocument)]

namespace StoredMemory

def ofDocument (score : Option Single) (d : Document) : Result StoredMemory := do
  match d.id? with
  | none => throw (.store .noId)
  | some id =>
      match d.get? payloadKey with
      | some (.object payload) => return ⟨id, score, ← Payload.ofDocument payload⟩
      | _ => throw (.store (.noPayload id))

def ofRow (kind : IndexKind) (row : Document) : Result StoredMemory :=
  let score := ((row.get? kind.scoreField).bind (·.float?)).map Single.ofFloat
  match row.get? SimilarityQuery.documentKey with
  | some (.object d) => ofDocument score d
  | _ => .error (.store .noStoredDocument)

/-- A hit without a score ranks like one with the least score. -/
def rank (m : StoredMemory) : Int := (m.score.getD .least).rank

def before (a b : StoredMemory) : Bool :=
  b.rank < a.rank || (a.rank == b.rank && a.id < b.id)

end StoredMemory

namespace VectorStore

def ofConfig (c : Config) : Result VectorStore := VectorStore.mk <$> c.settings

def collection (v : VectorStore) : String := v.settings.collection

def descriptor (v : VectorStore) (collection : String) (dimensions : Nat) : IndexDescriptor :=
  .forCollection collection v.settings.indexKind dimensions

def ensureIndex (v : VectorStore) : Task IndexStatus :=
  Upkeep.ensure v.collection (v.descriptor v.collection v.settings.dimensions)

def checkVector (v : VectorStore) (vector : Embedding) : Result Unit :=
  if vector.length ≠ v.settings.dimensions then
    .error (.validation (.vectorDimensions vector.length v.settings.dimensions))
  else .ok ()

def createCollection (v : VectorStore) (name : String) (dimensions : Nat) : Task Unit := do
  if dimensions = 0 then throw (.validation .zeroDimensions)
  match (← Upkeep.inspect name).bind (·.dimensions) with
  | some indexed =>
      if indexed ≠ dimensions then
        throw (.validation (.otherDimensions name indexed dimensions))
  | none => pure ()
  Task.call (.createCollection name)
  let _ ← Upkeep.ensure name (v.descriptor name dimensions)

def documents (v : VectorStore) (ids : List String) (vectors : List Embedding)
    (payloads : List Payload) : Result (List Document) := do
  if ids.length ≠ vectors.length ∨ ids.length ≠ payloads.length then
    throw (.validation (.unevenLengths ids.length vectors.length payloads.length))
  (ids.zip (vectors.zip payloads)).mapM fun (id, vector, payload) => do
    let r : Record := ⟨id, vector, payload⟩
    r.validate v.settings.dimensions
    return r.toDocument

def insert (v : VectorStore) (ids : List String) (vectors : List Embedding)
    (payloads : List Payload) : Task Unit := do
  let documents ← Task.ofResult (v.documents ids vectors payloads)
  if documents.isEmpty then return
  let _ ← v.ensureIndex
  let _ ← Task.call (.insert v.collection documents)

def hits (kind : IndexKind) (count : Nat) (rows : List Document) : Result (List StoredMemory) := do
  let found ← rows.mapM (StoredMemory.ofRow kind)
  return (stableSort StoredMemory.before found).take count

def search (v : VectorStore) (vector : Embedding) (count : Nat) (filters : Filters) :
    Task (List StoredMemory) := do
  if count = 0 then throw (.validation .zeroHits)
  Task.ofResult (v.checkVector vector)
  let filter ← Task.ofResult (filters.predicate? searchedPayloadPath)
  let status ← v.ensureIndex
  let rows ← Task.call <| .aggregate v.collection <|
    SimilarityQuery.pipeline status.effective vector count filter
  Task.ofResult (hits status.effective count rows)

def get (v : VectorStore) (id : String) : Task StoredMemory := do
  match ← Task.call (.findOne v.collection (Document.withId id)) with
  | none => throw (.notFound (.memory id))
  | some d => Task.ofResult (StoredMemory.ofDocument none d)

def list (v : VectorStore) (filters : Filters) (limit : Nat) : Task (List StoredMemory) := do
  let filter ← Task.ofResult (filters.predicate storedPayloadPath)
  -- to the store a limit of 0 is none
  if limit = 0 then return []
  let documents ← Task.call (.find v.collection filter (some limit))
  Task.ofResult (documents.mapM (StoredMemory.ofDocument none))

/-- A key of the metadata that may be changed: neither reserved nor read as a path. -/
def checkKey (key : String) : Result Unit :=
  if Payload.reservedKeys.contains key then .error (.validation (.reservedKey key))
  else if key.isEmpty || key.toList.head? == some '$' || key.toList.contains '.' then
    .error (.validation (.badKey key))
  else .ok ()

def changedFields (v : VectorStore) (change : Change) : Result Object := do
  let content : Object := match change.content with
    | some content => [(payloadKey ++ ".data", .string content)]
    | none => []
  let metadata ← (change.metadata.getD []).mapM fun (key, value) => do
    checkKey key
    return (payloadKey ++ "." ++ key, value)
  let vector : Object ← match change.vector with
    | some vector => do
        v.checkVector vector
        pure [(vectorPath, vector.toJson)]
    | none => pure []
  return content.insertAll metadata |>.insertAll vector

def update (v : VectorStore) (id : String) (change : Change) : Task Unit := do
  if change.isEmpty then throw (.validation .emptyChange)
  let fields ← Task.ofResult (v.changedFields change)
  let count ← Task.call (.update v.collection (Document.withId id) [("$set", .object fields)])
  if count.matched = 0 then throw (.notFound (.memory id))

def delete (v : VectorStore) (id : String) : Task Unit := do
  let deleted ← Task.call (.deleteOne v.collection (Document.withId id))
  if deleted = 0 then throw (.notFound (.memory id))

def deleteCollection (_ : VectorStore) (name : String) : Task Unit := do
  Task.call (.dropCollection name)
  Task.forget name

def collectionInfo (_ : VectorStore) (name : String) : Task CollectionInfo := do
  let statistics ← Task.call (.command (Document.command statisticsCommand name))
  let number (field : String) : Nat := ((statistics.get? field).bind (·.nat?)).getD 0
  return ⟨name, number "count", number "size"⟩

def reset (v : VectorStore) : Task Unit := do
  v.deleteCollection v.collection
  v.createCollection v.collection v.settings.dimensions

def collectionNames (_ : VectorStore) : Task (List String) := Task.call .collectionNames

end VectorStore

end MemoryBank
