import MemoryBank.Engine.Basic
import MemoryBank.VectorStore

set_option autoImplicit false

/-!
The engine that stores every text as it is, with its embedding, and keeps no history.
-/

namespace MemoryBank.Direct

def splitMetadata (metadata : Object) : Result (Category × Option Int × Object) := do
  let category ← match metadata.get? "category" with
    | some (.string name) =>
        match Category.ofText name with
        | .ok category => .ok category
        | .error unknown => .error (.validation (.unknownCategory unknown))
    | some v => .error (.validation (.categoryNotText v))
    | none => .ok .semantic
  let metadata := metadata.erase "category"
  let expiresAt ← match metadata.get? Payload.expiryKey with
    | some v =>
        match v.int? with
        | some time => .ok (some time)
        | none => .error (.validation .expiryNotInteger)
    | none => .ok none
  return (category, expiresAt, metadata.erase Payload.expiryKey)

def payload (text : String) (scope : Scope) (metadata : Object) : Result Payload := do
  let (category, expiresAt, extra) ← splitMetadata metadata
  return { (Payload.new text category scope).mergeMetadata extra with expiresAt := expiresAt }

def scopedFilters (scope : Scope) (filters : Filters) : Filters :=
  -- The scope's conditions take the place of the caller's on the same fields.
  filters.insertAll scope.filters.entries

variable (store : VectorStore) (embedder : Embedder)

def add (input : MemoryInput) (scope : Scope) (metadata : Object) : Task (Option AddOutcome) := do
  let text := input.toText
  if Text.isBlank text then return none
  Task.ofResult scope.validate
  let payload ← Task.ofResult (payload text scope metadata)
  let vector ← Task.ofResult (embedder.embedOne text)
  let id ← Task.newId
  store.insert [id] [vector] [payload]
  return some ⟨some id, text, .add⟩

def search (query : String) (scope : Scope) (limit : Nat) (filters : Filters) :
    Task (List MemoryItem) := do
  let vector ← Task.ofResult (embedder.embedOne query)
  let hits ← store.search vector limit (scopedFilters scope filters)
  return hits.map .ofStored

def getAll (scope : Scope) (limit : Nat) : Task (List MemoryItem) := do
  return (← store.list scope.filters limit).map .ofStored

def update (id content : String) : Task Unit := do
  let vector ← Task.ofResult (embedder.embedOne content)
  store.update id ⟨some content, none, some vector⟩

def engine : Engine Program where
  add := add store embedder
  search := search store embedder
  get := fun id => .ofStored <$> store.get id
  getAll := getAll store
  update := update store embedder
  delete := store.delete
  history := fun _ => pure []

end MemoryBank.Direct
