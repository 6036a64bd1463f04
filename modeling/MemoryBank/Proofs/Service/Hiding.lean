import MemoryBank.Proofs.Memory.Expiry
import MemoryBank.Proofs.Service.Deeds
import MemoryBank.Proofs.Store.Searching

set_option autoImplicit false

/-!
Expired memories stay hidden. What a reading of the service shows has not expired, by the expiry
that was promised; so it does not matter what else is being done while it is under way.
-/

namespace MemoryBank

/-- What shows memories, with the reading of the clock by which it leaves out expired ones. -/
inductive Reading
  | search (now : Int) (r : SearchRequest)
  | getAll (now : Int) (scope : Scope) (limit : Nat)

/-- The expiry that is stored with a memory. -/
def Document.expiry? (d : Document) : Option Int :=
  match d.get? payloadKey with
  | some (.object payload) => (Object.get? payload Payload.expiryKey).bind (·.int?)
  | _ => none

namespace Reading

def now : Reading → Int
  | search now _ | getAll now _ _ => now

def task (s : Service Program) : Reading → Task (List MemoryItem)
  | search now r => s.search now r
  | getAll now scope limit => s.getAll now scope limit

end Reading

namespace Service

/-- A reading of one service, and deeds beside it. -/
def beside (s : Service Program) (reading : Reading) (v : VectorStore) (deeds : List Deed) :
    List (Program (Result (List MemoryItem))) :=
  ExceptT.run (reading.task s) ::
    (deeds.flatMap (·.tasks v s.defaultLifetime s.coordinator)).map fun t =>
      ExceptT.run (do
        t
        return [])

/-- How far they have come on an empty store, in so many steps of one program or another. -/
def amid (s : Service Program) (reading : Reading) (v : VectorStore) (deeds : List Deed)
    (schedule : List Nat) : List (Program (Result (List MemoryItem))) × World Database :=
  Pool.follow schedule (s.beside reading v deeds) ⟨.empty, .empty⟩

end Service

/-- The memory has been read from what was stored under the number, with the expiry noted for it. -/
structure StoredMemory.Promised (g : Promises) (n : Nat) (m : StoredMemory) : Prop where
  id : m.id = identifier n
  read : ∃ o, Payload.ofObject o = .ok m.payload ∧ g n = some (o.get? Payload.expiryKey)

theorem StoredMemory.Promised.later {g g' : Promises} {n : Nat} {m : StoredMemory}
    (promised : m.Promised g n) (noted : g.Extends g') : m.Promised g' n := by
  obtain ⟨id, o, read, expiry⟩ := promised
  exact ⟨id, o, read, noted n _ expiry⟩

theorem Document.Promised.read {g : Promises} {n : Nat} {o : Object} {d : Document}
    (promised : d.Promised g n o) {score : Option Single} {m : StoredMemory}
    (read : StoredMemory.ofDocument score d = .ok m) : m.Promised g n := by
  obtain ⟨o', lies, value, named, -⟩ := StoredMemory.ofDocument_eq_ok_iff.mp read
  obtain rfl : o = o' := by simpa using promised.payload.symm.trans lies
  rw [Document.id?, promised.id] at named
  exact ⟨(Option.some.inj named).symm, o, value, promised.expiry⟩

/-- The item is shown under the number of a memory that has not expired. -/
def MemoryItem.Current (now : Int) (g : Promises) (item : MemoryItem) : Prop :=
  ∃ n expiry, item.id = identifier n ∧ g n = some expiry ∧
    ∀ time, expiry = some (.ofInt time) → now < time

theorem MemoryItem.current_of_promised {g : Promises} {n : Nat} {m : StoredMemory}
    (promised : m.Promised g n) {now : Int} (kept : (ofStored m).isExpired now = false) :
    (ofStored m).Current now g := by
  obtain ⟨named, o, read, noted⟩ := promised
  refine ⟨n, o.get? Payload.expiryKey, named, noted, fun time expires => ?_⟩
  have value := (Payload.ofObject_expiry read).1
  rw [expires, Option.getD_some] at value
  rw [isExpired_ofStored read] at kept
  rcases Decode.optional_int64_eq_ok value with ⟨none, -⟩ | ⟨time', same, known, -⟩
  · cases none
  · obtain rfl : time = time' := by simpa [Json.ofInt] using same
    simpa [Payload.isExpired, known] using kept

theorem MemoryItem.Current.later {now : Int} {g g' : Promises} {item : MemoryItem}
    (current : item.Current now g) (noted : g.Extends g') : item.Current now g' := by
  obtain ⟨n, expiry, named, known, unexpired⟩ := current
  exact ⟨n, expiry, named, noted n _ known, unexpired⟩

namespace VectorStore

variable {v : VectorStore} {g : Promises}

/-- A call for rows is answered with memories as promised, if with any. -/
theorem records_rows {c : Call} {P : c.Reply → StoredMemory → Prop}
    (reads : ∀ db : Database, (Database.execute c db).2 = db)
    (shows : ∀ {w : World Database} {reply : c.Reply} {m : StoredMemory},
      (DocumentStore.perform c w.store).1 = .ok reply → P reply m →
        ∃ d ∈ w.store.documents v.collection, ∃ score, StoredMemory.ofDocument score d = .ok m) :
    (Task.call c).Records v.promises
      (fun reply g => ∀ m, P reply m → ∃ n, m.Promised g n) g :=
  Task.records_call fun g w _ holds => by
    refine ⟨g, v.promises.refl g, holds.called ?_, fun reply g' answered noted m from' => ?_⟩
    · rw [reads]
      exact holds.stored
    · obtain ⟨d, stored, score, read⟩ := shows answered from'
      obtain ⟨n, o, promised⟩ := holds.stored d stored
      exact ⟨n, (promised.read read).later noted⟩

theorem stored_of_rows {kind : IndexKind} {vector : Embedding} {count : Nat}
    {filter : Option Document} {w : World Database} {rows : List Document} {m : StoredMemory}
    (answered : (DocumentStore.perform (.aggregate v.collection
      (SimilarityQuery.pipeline kind vector count filter)) w.store).1 = .ok rows)
    (shown : ∃ out ∈ rows, StoredMemory.ofRow kind out = .ok m) :
    ∃ d ∈ w.store.documents v.collection, ∃ score, StoredMemory.ofDocument score d = .ok m := by
  obtain ⟨out, listed, decoded⟩ := shown
  obtain ⟨-, noted, ran⟩ := Database.perform_aggregate_eq_ok (Prod.ext answered rfl)
  obtain ⟨row, stored, rfl, -⟩ := Pipeline.mem_of_run_similarity ran listed
  rw [StoredMemory.ofRow_hit] at decoded
  exact ⟨row.document, noted.documents v.collection ▸ stored, _, decoded⟩

theorem stored_of_listed {filter : Document} {limit : Option Nat} {w : World Database}
    {found : List Document} {m : StoredMemory}
    (answered : (DocumentStore.perform (.find v.collection filter limit) w.store).1 = .ok found)
    (shown : ∃ d ∈ found, StoredMemory.ofDocument none d = .ok m) :
    ∃ d ∈ w.store.documents v.collection, ∃ score, StoredMemory.ofDocument score d = .ok m := by
  obtain ⟨d, listed, decoded⟩ := shown
  obtain ⟨-, noted, selected⟩ := Database.perform_find_eq_ok (Prod.ext answered rfl)
  obtain ⟨stored, -⟩ := Database.mem_of_find selected listed
  exact ⟨d, noted.documents v.collection ▸ stored, none, decoded⟩

/-- What the task ends with, if not with a failure, has been stored as promised. -/
def Shows (v : VectorStore) (t : Task (List StoredMemory)) : Prop :=
  ∀ g, t.Records v.promises (fun ms g => ∀ m ∈ ms, ∃ n, m.Promised g n) g

theorem shows_behind {α : Type} {t : Task α} (respects : t.Respects v.promises)
    {f : α → Task (List StoredMemory)} (behind : ∀ a, v.Shows (f a)) : v.Shows (t >>= f) :=
  fun g => (respects g).bind fun a g' _ _ => behind a g'

theorem shows_search (vector : Embedding) (count : Nat) (filters : Filters) :
    v.Shows (v.search vector count filters) := by
  have result {α : Type} (r : Result α) : (Task.ofResult r).Respects v.promises :=
    (Task.closed_respects _).result r
  unfold search
  split
  · exact fun g => Task.records_ofResult (r := .error _) nofun
  · refine shows_behind (result _) fun _ => shows_behind (result _) fun filter =>
      shows_behind respects_ensureIndex fun status g => ?_
    refine (records_rows (fun _ => rfl) stored_of_rows).bind fun rows g' _ among => ?_
    refine Task.records_ofResult fun ms g'' read noted m member => ?_
    obtain ⟨n, promised⟩ := among m (mem_of_hits read member)
    exact ⟨n, promised.later noted⟩

theorem shows_list (filters : Filters) (limit : Nat) : v.Shows (v.list filters limit) := by
  refine shows_behind ((Task.closed_respects _).result _) fun filter g => ?_
  split
  · exact Task.records_ofResult (r := .ok []) fun ms _ same _ m member => by
      cases same
      cases member
  · refine (records_rows (fun _ => rfl) stored_of_listed).bind fun found g' _ among => ?_
    refine Task.records_ofResult fun ms g'' read noted m member => ?_
    obtain ⟨n, promised⟩ := among m (Fallible.exists_of_mem_mapM read member)
    exact ⟨n, promised.later noted⟩

theorem Shows.current {t : Task (List StoredMemory)} (shows' : v.Shows t) (now : Int) :
    Task.Records v.promises (fun items g => ∀ item ∈ items, item.Current now g)
      (do
        let items ← (do return (← t).map .ofStored)
        return Service.dropExpired now items) g := by
  refine Task.Records.bind
    (M := fun items g => ∀ item ∈ items, item.isExpired now = false → item.Current now g)
    ((shows' g).bind fun ms g' _ promised => ?_) fun items g' _ current => ?_
  · refine Task.records_ofResult (r := .ok _) fun items g'' same noted item member kept => ?_
    cases same
    obtain ⟨m, among, rfl⟩ := List.mem_map.mp member
    obtain ⟨n, known⟩ := promised m among
    exact MemoryItem.current_of_promised (known.later noted) kept
  · refine Task.records_ofResult (r := .ok _) fun shown g'' same noted item member => ?_
    cases same
    obtain ⟨among, kept⟩ := List.mem_filter.mp member
    exact (current item among (by simpa using kept)).later noted

end VectorStore

namespace Service

variable {v : VectorStore} {embedder : Embedder} {lifetime : Int} {coordinator : Coordinator}

theorem records_reading (reading : Reading) (g : Promises) :
    (reading.task (.direct v embedder lifetime coordinator)).Records v.promises
      (fun items g => ∀ item ∈ items, item.Current reading.now g) g := by
  cases reading with
  | search now r =>
    refine Task.Records.bind ((Task.closed_respects _).result r.validate g) fun _ g' _ _ => ?_
    cases embedded : embedder.embedOne r.query with
    | error cause =>
      simp only [Direct.engine, Direct.search, embedded]
      exact Task.records_ofResult (r := .error cause) nofun
    | ok vector =>
      simp only [Direct.engine, Direct.search, embedded]
      exact (v.shows_search vector _ _).current now
  | getAll now scope limit =>
    exact Task.Records.bind ((Task.closed_respects _).result scope.validate g) fun _ g' _ _ =>
      (v.shows_list _ _).current now

theorem records_beside (s : Service Program) (reading : Reading) (deeds : List Deed)
    {Q : List MemoryItem → Promises → Prop} {g : Promises}
    (own : (reading.task s).Records v.promises Q g)
    (none : ∀ g, Q [] g) : ∀ p ∈ s.beside reading v deeds,
      p.Records v.promises (fun r g => ∀ items, r = .ok items → Q items g) g := by
  refine List.forall_mem_cons.mpr ⟨own, List.forall_mem_map.mpr fun t among => ?_⟩
  obtain ⟨deed, -, among⟩ := List.mem_flatMap.mp among
  have respects := deed.respects_tasks v s.defaultLifetime s.coordinator t among
  exact Task.Records.bind (respects g) fun _ g' _ _ =>
    Task.records_ofResult (r := .ok []) fun items g'' same _ => Except.ok.inj same ▸ none g''

/-- Whatever else is done to the memories, a reading whose clock has reached the expiry of a stored
memory does not show it any more. -/
theorem expired_never_shown (v : VectorStore) (embedder : Embedder) (lifetime : Int)
    (coordinator : Coordinator) (deeds : List Deed) (reading : Reading) (before after : List Nat)
    {d : Document} {id : String} {time : Int}
    (stored : d ∈ ((direct v embedder lifetime coordinator).amid reading v deeds
      before).2.store.documents v.collection)
    (named : d.id? = some id) (expires : d.expiry? = some time) (due : time ≤ reading.now)
    {items : List MemoryItem}
    (shown : ((direct v embedder lifetime coordinator).amid reading v deeds
      (before ++ after)).1.head? = some (.done (.ok items))) :
    ∀ item ∈ items, item.id ≠ id := by
  have start : v.Promised (fun _ => none) ⟨.empty, .empty⟩ := ⟨rfl, fun _ _ => rfl, nofun⟩
  obtain ⟨g, -, holds, record⟩ := Pool.records_follow (c := v.promises) start
    (records_beside _ reading deeds (records_reading reading _) fun _ => nofun) before
  obtain ⟨n, o, promised⟩ := holds.stored d stored
  have noted : g n = some (some (.ofInt time)) := by
    rw [Document.expiry?, promised.payload] at expires
    obtain ⟨value, entry, whole⟩ := Option.bind_eq_some_iff.mp expires
    rw [promised.expiry, entry, (Json.int?_eq_some whole).1]
  rw [Document.id?, promised.id] at named
  obtain rfl : identifier n = id := Option.some.inj named
  rw [amid, Pool.follow_append] at shown
  obtain ⟨g', later, -, record'⟩ := Pool.records_follow holds record after
  intro item member same
  have ended := record' _ (List.mem_of_mem_head? shown) g' (v.promises.refl g')
  obtain ⟨n', expiry, named', known, unexpired⟩ := ended items rfl item member
  -- no other memory has been issued the number, so the item shows what was promised for it
  obtain rfl : n' = n := identifier_injective (named'.symm.trans same)
  have expiry' : expiry = some (.ofInt time) :=
    Option.some.inj (known.symm.trans (later _ _ noted))
  exact absurd (unexpired time expiry') (Int.not_lt.mpr due)

/-- Two memories, of which one expires at 110; its content and its metadata are changed after that,
and then all memories are read. -/
def fading (schedule : List Nat) : List (Program (Result (List MemoryItem))) × World Database :=
  amid (.direct ⟨⟨"memories", 1, .diskann, 0, 50⟩⟩ (.ofLetters 1) 0 (.ofSize 50))
    (.getAll 200 ⟨some "u", none, none⟩ 10) ⟨⟨"memories", 1, .diskann, 0, 50⟩⟩
    [.errand (.ofLetters 1) (.add 100 ⟨⟨some "u", none, none⟩, .text "a", .fact, none, some 10⟩),
      .errand (.ofLetters 1) (.add 100 ⟨⟨some "u", none, none⟩, .text "b", .fact, none, none⟩),
      .errand (.ofLetters 1) (.update (identifier 1) "c"),
      .change (identifier 1) ⟨none, some [("tag", .null)], none⟩] schedule

theorem expired_not_shown_after_changes :
    ∃ d items, d ∈ (fading (.replicate 6 1 ++ .replicate 6 2)).2.store.documents "memories" ∧
      d.id? = some (identifier 1) ∧ d.expiry? = some 110 ∧
      (fading ((.replicate 6 1 ++ .replicate 6 2) ++ [3, 4, 3, 0])).1.head? =
        some (.done (.ok items)) ∧
      items.map (·.id) = [identifier 2] ∧ ∀ item ∈ items, item.id ≠ identifier 1 := by
  have stored : ∃ d ∈ (fading (.replicate 6 1 ++ .replicate 6 2)).2.store.documents "memories",
      d.id? = some (identifier 1) ∧ d.expiry? = some 110 := by decide +kernel
  obtain ⟨d, stored, named, expires⟩ := stored
  have ended : ((fading ((.replicate 6 1 ++ .replicate 6 2) ++ [3, 4, 3, 0])).1.head?.bind
      Program.result?).map (·.toOption.map (List.map (·.id))) = some (some [identifier 2]) := by
    decide +kernel
  obtain ⟨r, ended, shown⟩ := Option.map_eq_some_iff.mp ended
  obtain ⟨p, first, ended⟩ := Option.bind_eq_some_iff.mp ended
  obtain rfl := Program.eq_done_of_result? ended
  cases r with
  | error cause => cases shown
  | ok items =>
    exact ⟨d, items, stored, named, expires, first, Option.some.inj shown,
      expired_never_shown _ _ _ _ _ _ _ _ stored named expires (by decide) first⟩

end Service

end MemoryBank
