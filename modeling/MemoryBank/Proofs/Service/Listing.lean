import MemoryBank.Proofs.Engine.Isolation
import MemoryBank.Proofs.Service.Errands
import MemoryBank.Proofs.Store.Filtering

set_option autoImplicit false

/-!
What a listing depends on. The conditions of a scope can be judged on every document, also on one
without a payload, so a document that does not match them never stops a listing, is not counted
and is not read.
-/

namespace MemoryBank

namespace Document

/-- The payload of a document; what has none is taken for one with an empty payload. -/
def payload (d : Document) : Object :=
  match d.get? payloadKey with
  | some (.object o) => o
  | _ => []

end Document

theorem Place.shows_payload (d : Document) : Place.stored.Shows d d.payload := by
  unfold Document.payload
  split
  · next o lies => exact Place.shows_of_get? lies
  · next other =>
    intro field
    change d.getPath? (Path.ofText ("payload" ++ "." ++ field)) = _
    rw [Path.ofText_append (by decide), Object.getPath?_nil]
    exact Object.getPath?_blocked (Path.ofText_ne_nil field) other

namespace Scope

theorem named_of_mem_filters {s : Scope} {e : String × Json} (member : e ∈ s.filters.entries) :
    e.1 ∈ keys ∧ ∃ name, e.2 = .string name := by
  have written : e ∈ s.conditions := by
    rcases (NameMap.insertAll_spec s.conditions .empty .nil).2 e member with none | written
    · cases none
    · exact written
  obtain ⟨owner, known, made⟩ := List.mem_filterMap.mp written
  refine ⟨fst_condition? made ▸ key_of_mem_owners known, ?_⟩
  unfold condition? at made
  split at made
  · next name _ =>
    split at made
    · cases made
    · exact ⟨name, (congrArg Prod.snd (Option.some.inj made)).symm⟩
  · cases made

/-- What the filters of a scope ask for. -/
def asked (s : Scope) : List Condition := s.filters.entries.map fun e => ⟨e.1, .equals e.2⟩

theorem conditions_filters (s : Scope) : s.filters.conditions = .ok s.asked := by
  refine Fallible.mapM_eq_map fun e member => ?_
  obtain ⟨known, name, text⟩ := named_of_mem_filters member
  obtain ⟨key, v⟩ := e
  obtain rfl : v = .string name := text
  have parsed : ∀ key ∈ keys,
      Condition.parse key (.string name) = .ok ⟨key, .equals (.string name)⟩ := by
    simp [keys, Condition.parse, Condition.parseTest]
  exact parsed key known

theorem plain_asked (s : Scope) : ∀ c ∈ s.asked, c.Plain := by
  intro c member
  obtain ⟨e, entry, rfl⟩ := List.mem_map.mp member
  obtain ⟨known, name, text⟩ := named_of_mem_filters entry
  refine ⟨(by decide : ∀ key ∈ keys, Path.IsPart key) e.1 known, ?_⟩
  change Query.operators? e.2 = none
  rw [text]
  rfl

/-- A scope that is accepted asks for something. -/
theorem asked_ne_nil {s : Scope} (accepted : s.validate = .ok ()) : s.asked ≠ [] := by
  have named : ¬s.isEmpty = true := by
    intro empty
    rw [validate, if_pos empty] at accepted
    cases accepted
  rw [isEmpty, List.all_eq_true] at named
  push Not at named
  obtain ⟨⟨key, owner⟩, known, some⟩ := named
  cases owner with
  | none => exact absurd rfl some
  | some name =>
    have entry := get?_filters_owner known (by simpa using some)
    have member := NameMap.mem_of_lookup entry
    intro none
    rw [asked, List.map_eq_nil_iff] at none
    rw [none] at member
    cases member

/-- The filter of a listing of the scope, which every document either meets or does not meet. -/
theorem exists_filter (s : Scope) (accepted : s.validate = .ok ()) :
    ∃ filter, s.filters.predicate storedPayloadPath = .ok filter ∧ filter ≠ [] ∧
      ∀ d : Document, d.satisfies filter = .ok (d.passes filter) := by
  cases parsed : s.asked with
  | nil => exact absurd parsed (asked_ne_nil accepted)
  | cons c rest =>
    have written : s.filters.predicate storedPayloadPath =
        .ok [("$and", .array (s.asked.map (·.clause storedPayloadPath)))] := by
      rw [Filters.predicate, Filters.predicate?, conditions_filters, parsed]
      rfl
    refine ⟨_, written, List.cons_ne_nil _ _, fun d => ?_⟩
    have judged : d.satisfies [("$and", .array (s.asked.map (·.clause storedPayloadPath)))] =
        .ok (s.asked.all (·.holds d.payload)) := by
      rw [Place.satisfies_predicate (Place.shows_payload d) (conditions_filters s) written]
      exact Condition.allJudged_of_judged fun c member => (plain_asked s c member).judged d.payload
    rw [Document.passes_of_satisfies judged, judged]

end Scope

namespace VectorStore

/-- The answer to a listing, from the documents that meet its filter. -/
def listed (reachable : Bool) (limit : Nat) (matching : List Document) :
    Result (List StoredMemory) :=
  if limit = 0 then .ok []
  else if reachable then (matching.take limit).mapM (StoredMemory.ofDocument none)
  else .error (.store .unreachable)

theorem run_list_eq {v : VectorStore} {filters : Filters} {filter : Document}
    (written : filters.predicate storedPayloadPath = .ok filter)
    (total : ∀ d : Document, d.satisfies filter = .ok (d.passes filter)) (limit : Nat)
    (w : World Database) :
    (Task.run (v.list filters limit) w).1 =
      listed (!w.store.offline) limit
        ((w.store.documents v.collection).filter (Document.passes · filter)) := by
  unfold list
  simp only [Task.run_bind, Task.run_ofResult, written]
  cases limit with
  | zero => rfl
  | succ limit =>
    rw [if_neg (Nat.succ_ne_zero limit), Task.run_bind, Task.run_call, listed,
      if_neg (Nat.succ_ne_zero limit)]
    cases offline : w.store.offline with
    | true => rw [Database.perform_of_offline offline]; rfl
    | false =>
      rw [Database.perform_of_online offline, Database.execute,
        Database.find_first_of_satisfies (fun d _ => total d) limit]
      rfl

end VectorStore

/-- The world as it is with the connection to its store lost or regained. -/
def World.switched (w : World Database) (offline : Bool) : World Database :=
  { w with store := w.store.setOffline offline }

namespace Service

theorem run_getAll (v : VectorStore) (embedder : Embedder) (lifetime : Int)
    (coordinator : Coordinator) {scope : Scope} (accepted : scope.validate = .ok ()) (now : Int)
    (limit : Nat) (w : World Database) :
    (Task.run ((direct v embedder lifetime coordinator).getAll now scope limit) w).1 =
      (fun ms => dropExpired now (ms.map .ofStored)) <$>
        (Task.run (v.list scope.filters limit) w).1 := by
  have shape : (direct v embedder lifetime coordinator).getAll now scope limit = (do
      Task.ofResult scope.validate
      let items ← Direct.getAll v scope limit
      pure (dropExpired now items)) := rfl
  rw [shape, accepted, Task.run_bind, Task.run_ofResult]
  simp only [Task.run_bind, Direct.getAll]
  rcases Task.run (v.list scope.filters limit) w with ⟨_ | _, w'⟩ <;> rfl

/-- Two stores with the same documents that match a scope, among whatever others, answer its listing
alike, be it with an error, as long as the connection is up for both or down for both. -/
theorem getAll_blind_outside_scope (v : VectorStore) (embedder : Embedder) (lifetime : Int)
    (coordinator : Coordinator) (scope : Scope) (accepted : scope.validate = .ok ()) (limit : Nat)
    (now : Int) :
    ∃ filter, scope.filters.predicate storedPayloadPath = .ok filter ∧ filter ≠ [] ∧
      ∀ (w w' : World Database) (offline : Bool),
        (w.store.documents v.collection).filter (Document.passes · filter) =
          (w'.store.documents v.collection).filter (Document.passes · filter) →
        (Task.run ((direct v embedder lifetime coordinator).getAll now scope limit)
            (w.switched offline)).1 =
          (Task.run ((direct v embedder lifetime coordinator).getAll now scope limit)
            (w'.switched offline)).1 := by
  obtain ⟨filter, written, asks, total⟩ := scope.exists_filter accepted
  refine ⟨filter, written, asks, fun w w' offline same => ?_⟩
  rw [run_getAll _ _ _ _ accepted, run_getAll _ _ _ _ accepted,
    VectorStore.run_list_eq written total, VectorStore.run_list_eq written total]
  exact congrArg _ (congrArg (VectorStore.listed (!offline) limit) same)

def ownMemory : Document :=
  Record.toDocument ⟨"a", [.ofInt 1], .new "t" .fact ⟨some "u", none, none⟩⟩

/-- A memory behind one of another user and a document without a payload. -/
def amongStrangers : World Database where
  store :=
    { collections := .ofList [("memories",
        ⟨[[("_id", .ofInt 7)],
          Record.toDocument ⟨"b", [.ofInt 1], .new "t" .fact ⟨some "v", none, none⟩⟩, ownMemory],
          []⟩)]
      log := []
      offline := false
      issued := 0 }
  verdicts := .empty

/-- The same memory, before a document whose payload cannot be read. -/
def beforeMalformed : World Database where
  store :=
    { collections := .ofList [("memories",
        ⟨[ownMemory, [("_id", .string "c"), ("payload", .object [("user_id", .ofInt 5)])]], []⟩)]
      log := []
      offline := true
      issued := 3 }
  verdicts := .empty

theorem getAll_among_strangers :
    (Task.run ((direct ⟨⟨"memories", 1, .diskann, 0, 50⟩⟩ (.ofLetters 1) 0 ⟨50, none⟩).getAll 0
        ⟨some "u", none, none⟩ 1) (amongStrangers.switched false)).1 =
      (Task.run ((direct ⟨⟨"memories", 1, .diskann, 0, 50⟩⟩ (.ofLetters 1) 0 ⟨50, none⟩).getAll 0
        ⟨some "u", none, none⟩ 1) (beforeMalformed.switched false)).1 ∧
    (Task.run ((direct ⟨⟨"memories", 1, .diskann, 0, 50⟩⟩ (.ofLetters 1) 0 ⟨50, none⟩).getAll 0
        ⟨some "u", none, none⟩ 1) (amongStrangers.switched false)).1.toOption.map
        (fun items => items.map (·.id)) = some ["a"] := by
  obtain ⟨filter, written, -, alike⟩ := getAll_blind_outside_scope
    ⟨⟨"memories", 1, .diskann, 0, 50⟩⟩ (.ofLetters 1) 0 ⟨50, none⟩ ⟨some "u", none, none⟩ rfl 1 0
  obtain rfl : [("$and", .array [.object [("payload.user_id", .string "u")]])] = filter :=
    Except.ok.inj written
  exact ⟨alike amongStrangers beforeMalformed false rfl, by decide +kernel⟩

end Service

end MemoryBank
