import MemoryBank.Batch.Coordinator
import MemoryBank.Engine.Basic
import MemoryBank.Settings.Config

set_option autoImplicit false

/-!
The memory service. It stamps new memories with their expiry, hides expired ones from what it
reads, and runs batches; `now` is the reading of its clock.
-/

namespace MemoryBank

structure Service (n : Type → Type) where
  engine : Engine n
  defaultLifetime : Int
  coordinator : Coordinator

namespace Service

variable {n : Type → Type} [Monad n]

def ofSettings (engine : Engine n) (s : Settings) : Service n where
  engine := engine
  defaultLifetime := s.defaultLifetime
  coordinator := .ofSize s.maxBatchSize

def expiry (now lifetime : Int) : Result (Option Int) :=
  -- When a memory with this lifetime expires; one that lives for ever does not.
  if lifetime ≤ 0 then .ok none
  else if now + lifetime < Word.half64 then .ok (some (now + lifetime))
  else .error (.validation .lifetimeTooLong)

def metadata (s : Service n) (now : Int) (r : AddRequest) : Result Object := do
  let metadata := Object.insert (r.metadata.getD []) "category" r.category.toJson
  match ← expiry now (r.lifetime.getD s.defaultLifetime) with
  | some time => return metadata.insert Payload.expiryKey (.ofInt time)
  | none => return metadata

def dropExpired (now : Int) (items : List MemoryItem) : List MemoryItem :=
  items.filter fun item => !item.isExpired now

def add (s : Service n) (now : Int) (r : AddRequest) : ExceptT Failure n AddOutcome := do
  liftExcept r.validate
  let metadata ← liftExcept (s.metadata now r)
  return (← s.engine.add r.messages r.scope metadata).getD .nothing
where
  liftExcept {α : Type} (r : Result α) : ExceptT Failure n α := ExceptT.mk (pure r)

def categoryFilters (categories : Option (List Category)) : Filters :=
  match categories with
  | some categories =>
      .ofList [("category", .object [("in", .array (categories.map (·.toJson)))])]
  | none => .empty

def search (s : Service n) (now : Int) (r : SearchRequest) :
    ExceptT Failure n (List MemoryItem) := do
  ExceptT.mk (pure r.validate)
  let items ← s.engine.search r.query r.scope r.limit (categoryFilters r.categories)
  return dropExpired now items

def get (s : Service n) (id : String) : ExceptT Failure n MemoryItem := s.engine.get id

def getAll (s : Service n) (now : Int) (scope : Scope) (limit : Nat) :
    ExceptT Failure n (List MemoryItem) := do
  ExceptT.mk (pure scope.validate)
  return dropExpired now (← s.engine.getAll scope limit)

def update (s : Service n) (id content : String) : ExceptT Failure n MemoryItem := do
  if Text.isBlank content then throw (.validation .blankContent)
  s.engine.update id content
  s.engine.get id

def delete (s : Service n) (id : String) : ExceptT Failure n Unit := s.engine.delete id

def history (s : Service n) (id : String) : ExceptT Failure n (List HistoryEntry) :=
  s.engine.history id

def inTurn {α : Type} (s : Service n) (tasks : List (ExceptT Failure n α)) :
    ExceptT Failure n (BatchResponse α) := do
  ExceptT.mk (pure (s.coordinator.checkSize tasks.length))
  let results ← ExceptT.lift (tasks.mapM fun t => t.run)
  return Coordinator.respond results

def addTasks (s : Service n) (now : Int) (requests : List AddRequest) :
    List (ExceptT Failure n AddOutcome) :=
  requests.map (s.add now)

def searchTasks (s : Service n) (now : Int) (requests : List SearchRequest) :
    List (ExceptT Failure n (List MemoryItem)) :=
  requests.map (s.search now)

def deleteTasks (s : Service n) (ids : List String) : List (ExceptT Failure n String) :=
  -- Each deletion answers with the id it was given.
  ids.map fun id => do
    s.delete id
    return id

def batchAdd (s : Service n) (now : Int) (requests : List AddRequest) :
    ExceptT Failure n (BatchResponse AddOutcome) :=
  s.inTurn (s.addTasks now requests)

def batchSearch (s : Service n) (now : Int) (requests : List SearchRequest) :
    ExceptT Failure n (BatchResponse (List MemoryItem)) :=
  s.inTurn (s.searchTasks now requests)

def batchDelete (s : Service n) (ids : List String) :
    ExceptT Failure n (BatchResponse String) :=
  s.inTurn (s.deleteTasks ids)

end Service

end MemoryBank
