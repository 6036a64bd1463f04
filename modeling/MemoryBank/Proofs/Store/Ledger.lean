import MemoryBank.Proofs.Index.Ensuring
import MemoryBank.Proofs.Store.Identity
import MemoryBank.Proofs.Sweep

set_option autoImplicit false

/-!
What a store keeps for an adapter, as a map from ids to memories in the order in which they came,
and what the calls to a store that holds such a map do to it.
-/

namespace MemoryBank

/-- What is kept of one memory. -/
structure Entry where
  id : String
  vector : Json
  payload : Object

/-- What a change writes into a payload, the content first. -/
def Change.written (c : Change) : Object :=
  (c.content.map fun content => ("data", Json.string content)).toList ++ c.metadata.getD []

namespace Entry

def document (e : Entry) : Document :=
  [(Document.idKey, .string e.id), (vectorPath, e.vector), (payloadKey, .object e.payload)]

def ofRecord (r : Record) : Entry := ⟨r.id, r.vector.toJson, r.payload.toDocument⟩

def ofRecords (ids : List String) (vectors : List Embedding) (payloads : List Payload) :
    List Entry :=
  (ids.zip (vectors.zip payloads)).map fun r => .ofRecord ⟨r.1, r.2.1, r.2.2⟩

def memory (e : Entry) : Result StoredMemory :=
  (StoredMemory.mk e.id none) <$> Payload.ofDocument e.payload

/-- The expiry stands at or before this time, as far as doubles tell. -/
def due (now : Int) (e : Entry) : Bool :=
  Query.ordered Ordering.isLE (e.payload.get? Payload.expiryKey) (.ofInt now)

def changed (c : Change) (e : Entry) : Entry where
  id := e.id
  vector := (c.vector.map Embedding.toJson).getD e.vector
  payload := e.payload.insertAll c.written

theorem hasId_document (id : String) (e : Entry) :
    Document.hasId id e.document = (e.id == id) := rfl

theorem due_document (now : Int) (e : Entry) : Sweep.due now e.document = e.due now := by
  have path : e.document.getPath? [payloadKey, Payload.expiryKey] =
      e.payload.get? Payload.expiryKey := Object.getPath?_object (by simp) rfl
  rw [Sweep.due, path, due]

theorem ofDocument_document (e : Entry) : StoredMemory.ofDocument none e.document = e.memory := by
  change (Payload.ofDocument e.payload >>= fun p =>
    (.ok ⟨e.id, none, p⟩ : Result StoredMemory)) = _
  rw [memory]
  cases Payload.ofDocument e.payload <;> rfl

theorem setAll_payload {entries : Object} (parts : ∀ key ∈ entries.keys, Path.IsPart key)
    (e : Entry) (rest : Object) :
    Update.setAll (entries.map Change.atPath ++ rest) e.document =
      Update.setAll rest { e with payload := e.payload.insertAll entries }.document := by
  induction entries generalizing e with
  | nil => rfl
  | cons first others ih =>
    obtain ⟨key, v⟩ := first
    rw [Object.keys_cons, List.forall_mem_cons] at parts
    have set := Object.setPath_payload (d := e.document) (o := e.payload) rfl parts.1 v
    rw [List.map_cons, List.cons_append, Change.atPath,
      Update.setAll_cons (Update.prefix_ne_id key) set]
    exact ih parts.2 { e with payload := e.payload.insert key v }

end Entry

/-- Memories under distinct ids, in the order in which they came. -/
structure Ledger where
  entries : List Entry
  distinct : (entries.map (·.id)).Nodup

namespace Ledger

def empty : Ledger := ⟨[], .nil⟩

def ids (l : Ledger) : List String := l.entries.map (·.id)

def documents (l : Ledger) : List Document := l.entries.map Entry.document

def find? (l : Ledger) (id : String) : Option Entry := l.entries.find? (·.id == id)

def keep (l : Ledger) (p : Entry → Bool) : Ledger where
  entries := l.entries.filter p
  distinct := (List.filter_sublist.map _).nodup l.distinct

def without (l : Ledger) (id : String) : Ledger := l.keep (·.id != id)

def change (l : Ledger) (id : String) (c : Change) : Ledger where
  entries := l.entries.map fun e => if e.id = id then e.changed c else e
  distinct := by
    have same : ∀ e : Entry, (if e.id = id then e.changed c else e).id = e.id := by
      intro e
      split <;> rfl
    simpa [List.map_map, Function.comp_def, same] using l.distinct

def add (l : Ledger) (e : Entry) (new : e.id ∉ l.ids) : Ledger where
  entries := l.entries ++ [e]
  distinct := by
    rw [List.map_append, List.nodup_append]
    refine ⟨l.distinct, List.pairwise_singleton _ _, ?_⟩
    rintro id known _ last rfl
    have same : id = e.id := List.mem_singleton.mp last
    exact new (same ▸ known)

/-- Adds entries up to the first whose id is taken. -/
def addAll (collection : String) : List Entry → Ledger → Result Unit × Ledger
  | [], l => (.ok (), l)
  | e :: rest, l =>
      if new : e.id ∉ l.ids then addAll collection rest (l.add e new)
      else (.error (.store (.duplicateId collection (.string e.id))), l)

def size (l : Ledger) : Nat := (l.documents.map Document.size).sum

/-- A number too large for a word is reported as 0. -/
def reported (n : Nat) : Nat := if n < pow2 64 then n else 0

def info (l : Ledger) (name : String) : CollectionInfo where
  name := name
  count := reported l.entries.length
  size := reported l.size

/-- What the store reports on a collection. -/
def statistics (l : Ledger) (name : String) (indexes : Json) : Document :=
  [("ns", .string name), ("count", .ofNat l.entries.length), ("size", .ofNat l.size),
    ("nindexes", indexes), ("ok", .ofInt 1)]

theorem get?_count (l : Ledger) (name : String) (indexes : Json) :
    (l.statistics name indexes).get? "count" = some (.ofNat l.entries.length) := rfl

theorem get?_size (l : Ledger) (name : String) (indexes : Json) :
    (l.statistics name indexes).get? "size" = some (.ofNat l.size) := rfl

theorem reported_eq (n : Nat) : reported n = (Json.ofNat n).nat?.getD 0 := by
  unfold reported
  split
  · next fits => rw [Json.nat?_ofNat.mpr ⟨fits, rfl⟩, Option.getD_some]
  · next large =>
    cases read : (Json.ofNat n).nat? with
    | none => rfl
    | some m => exact absurd (Json.nat?_ofNat.mp read).1 large

theorem info_eq (l : Ledger) (name : String) (indexes : Json) :
    l.info name = ⟨name, (((l.statistics name indexes).get? "count").bind (·.nat?)).getD 0,
      (((l.statistics name indexes).get? "size").bind (·.nat?)).getD 0⟩ := by
  rw [info, reported_eq, reported_eq, get?_count, get?_size, Option.bind_some, Option.bind_some]

theorem documents_add (l : Ledger) (e : Entry) (new : e.id ∉ l.ids) :
    (l.add e new).documents = l.documents ++ [e.document] := List.map_append

theorem filter_documents (l : Ledger) {p : Document → Bool} {q : Entry → Bool}
    (agree : ∀ e : Entry, p e.document = q e) : l.documents.filter p = (l.keep q).documents := by
  rw [documents, List.filter_map, documents, keep]
  exact congrArg _ (List.filter_congr fun e _ => agree e)

theorem id?_documents (l : Ledger) : l.documents.filterMap (·.id?) = l.ids := by
  have each : Document.id? ∘ Entry.document = fun e => some e.id := rfl
  rw [documents, List.filterMap_map]
  exact (congrArg (List.filterMap · l.entries) each).trans (congrFun List.filterMap_eq_map' _)

theorem find?_documents (l : Ledger) (id : String) :
    l.documents.find? (Document.hasId id) = (l.find? id).map Entry.document :=
  List.find?_map ..

theorem without_of_not_mem {l : Ledger} {id : String} (new : id ∉ l.ids) : l.without id = l := by
  have all : l.entries.filter (·.id != id) = l.entries := by
    rw [List.filter_eq_self]
    intro e member
    rw [bne_iff_ne]
    rintro rfl
    exact new (List.mem_map_of_mem member)
  cases l
  simp only [without, keep, all]

theorem change_of_not_mem {l : Ledger} {id : String} (new : id ∉ l.ids) (c : Change) :
    l.change id c = l := by
  have all : (l.entries.map fun e => if e.id = id then e.changed c else e) = l.entries := by
    refine (List.map_congr_left fun e member => if_neg ?_).trans (List.map_id _)
    rintro rfl
    exact new (List.mem_map_of_mem member)
  cases l
  simp only [change, all]

theorem map_of_not_mem {s : Option Ledger} {id : String} (new : id ∉ (s.getD .empty).ids)
    {f : Ledger → Ledger} (stays : ∀ l : Ledger, id ∉ l.ids → f l = l) : s.map f = s := by
  cases s with
  | none => rfl
  | some l => exact congrArg some (stays l new)

end Ledger

namespace Change

theorem insertAll_atPath (o entries : Object) :
    Object.insertAll (o.map atPath) (entries.map atPath) = (o.insertAll entries).map atPath := by
  have one (o : Object) (key : String) (v : Json) :
      Object.insert (o.map atPath) (payloadKey ++ "." ++ key) v = (o.insert key v).map atPath := by
    induction o with
    | nil => rfl
    | cons e rest ih =>
      simp only [List.map_cons, atPath, Object.insert, Update.prefix_injective]
      split
      · rfl
      · exact congrArg _ ih
  induction entries generalizing o with
  | nil => rfl
  | cons e rest ih => exact (congrArg (Object.insertAll · _) (one o e.1 e.2)).trans (ih _)

theorem contentFields_insertAll (c : Change) :
    c.contentFields.insertAll ((c.metadata.getD []).map atPath) =
      (Object.insertAll [] c.written).map atPath := by
  have content : c.contentFields =
      (c.content.map fun content => ("data", Json.string content)).toList.map atPath := by
    have path : payloadKey ++ ".data" = payloadKey ++ "." ++ "data" := by decide
    unfold contentFields
    cases c.content with
    | none => rfl
    | some text => rw [path]; rfl
  rw [content, insertAll_atPath, written, Object.insertAll, Object.insertAll, List.foldl_append]
  cases c.content <;> rfl

/-- In a change that is accepted the vector follows what is written into the payload. -/
theorem fields_eq {v : VectorStore} {c : Change} {fields : Object}
    (made : v.changedFields c = .ok fields) :
    fields = (Object.insertAll [] c.written).map atPath ++ c.vectorFields := by
  obtain ⟨rfl, -⟩ := VectorStore.changedFields_eq_ok made
  rw [contentFields_insertAll]
  refine Object.insertAll_of_disjoint ?_ fun path own other => ?_
  · unfold vectorFields
    split <;> simp
  · obtain ⟨e, member, path'⟩ := List.mem_map.mp other
    obtain ⟨e, -, rfl⟩ := List.mem_map.mp member
    exact Update.prefix_ne_vectorPath e.1 ((path'.trans (c.keys_vectorFields own)).symm)

end Change

theorem Entry.setAll_changed {v : VectorStore} {c : Change} {fields : Object}
    (made : v.changedFields c = .ok fields) (e : Entry) :
    Update.setAll fields e.document = (.ok (), (e.changed c).document) := by
  obtain ⟨-, free⟩ := VectorStore.changedFields_eq_ok made
  have parts : ∀ key ∈ (Object.insertAll [] c.written).keys, Path.IsPart key := by
    intro key member
    rcases Object.mem_keys_insertAll.mp member with none | written
    · cases none
    · rw [Change.written, Object.keys_append, List.mem_append] at written
      rcases written with content | metadata
      · cases given : c.content with
        | none => rw [given] at content; cases content
        | some text =>
          rw [given] at content
          obtain rfl := List.mem_singleton.mp content
          exact (by decide : Path.IsPart "data")
      · exact (free key metadata).2
  have payload : e.payload.insertAll (Object.insertAll [] c.written) =
      e.payload.insertAll c.written :=
    @Object.insertAll_insertAll [] .nil e.payload c.written
  rw [Change.fields_eq made, e.setAll_payload parts, payload, changed, Change.vectorFields]
  cases c.vector with
  | none => rfl
  | some vector =>
    rw [Update.setAll_cons (by decide) (Object.setPath_vector _ _)]
    rfl

namespace Database

theorem deleteFirst_documents (l : Ledger) (id : String) :
    deleteFirst (Document.withId id) l.documents =
      (.ok (if id ∈ l.ids then 1 else 0), (l.without id).documents) := by
  obtain ⟨entries, distinct⟩ := l
  simp only [Ledger.documents, Ledger.ids, Ledger.without, Ledger.keep]
  induction entries with
  | nil => rfl
  | cons e rest ih =>
    rw [List.map_cons, List.nodup_cons] at distinct
    rw [List.map_cons, deleteFirst, Document.satisfies_withId, Entry.hasId_document]
    cases same : e.id == id with
    | true =>
      -- the search ends here, and no other entry has this id
      obtain rfl := beq_iff_eq.mp same
      have others : rest.filter (·.id != e.id) = rest :=
        congrArg Ledger.entries (Ledger.without_of_not_mem (l := ⟨rest, distinct.2⟩) distinct.1)
      simp [others]
    | false => simp [ih distinct.2, bne, same, Ne.symm (beq_eq_false_iff_ne.mp same)]

theorem updateFirst_documents (l : Ledger) (id : String) {v : VectorStore} {c : Change}
    {fields : Object} (made : v.changedFields c = .ok fields) :
    (·.matched) <$> (updateFirst (Document.withId id) [("$set", .object fields)] l.documents).1 =
        .ok (if id ∈ l.ids then 1 else 0) ∧
      (updateFirst (Document.withId id) [("$set", .object fields)] l.documents).2 =
        (l.change id c).documents := by
  obtain ⟨entries, distinct⟩ := l
  simp only [Ledger.documents, Ledger.ids, Ledger.change]
  induction entries with
  | nil => exact ⟨rfl, rfl⟩
  | cons e rest ih =>
    rw [List.map_cons, List.nodup_cons] at distinct
    rw [List.map_cons, updateFirst, Document.satisfies_withId, Entry.hasId_document]
    cases same : e.id == id with
    | true =>
      -- as for the deletion, the entries behind stay as they are
      obtain rfl := beq_iff_eq.mp same
      have others := congrArg Ledger.entries
        (Ledger.change_of_not_mem (l := ⟨rest, distinct.2⟩) distinct.1 c)
      simp only [Ledger.change] at others
      simp only [Update.apply_set, e.setAll_changed made, List.map_cons, List.mem_cons, true_or,
        if_true, others, and_true]
      rfl
    | false =>
      have away := beq_eq_false_iff_ne.mp same
      obtain ⟨matched, left⟩ := ih distinct.2
      refine ⟨?_, ?_⟩
      · simpa [Ne.symm away] using matched
      · simpa [away] using left

/-- A store that can be reached and has at most one collection, with what the ledger says in it;
without a ledger it has none. -/
structure Holds (db : Database) (name : String) (s : Option Ledger) : Prop where
  online : db.offline = false
  own : (db.find? name).map (·.documents) = s.map Ledger.documents
  others : ∀ other, other ≠ name → db.find? other = none

namespace Holds

variable {db : Database} {name : String} {s : Option Ledger} {l : Ledger}

theorem logged (holds : db.Holds name s) (log : List LogEntry) :
    Database.Holds { db with log := log } name s :=
  ⟨holds.online, holds.own, holds.others⟩

theorem arrive (holds : db.Holds name s) (c : Call) : (Database.arrive c db).Holds name s :=
  holds.logged _

theorem put (holds : db.Holds name s) {c : Collection} (own : c.documents = l.documents) :
    (db.put name c).Holds name (some l) where
  online := holds.online
  own := by rw [find?, Database.put, NameMap.get?_insert, if_pos rfl, Option.map_some, own]; rfl
  others other away := by
    rw [find?, Database.put, NameMap.get?_insert, if_neg away]
    exact holds.others other away

theorem missing (holds : db.Holds name none) : db.find? name = none := by
  have own := holds.own
  rw [Option.map_none, Option.map_eq_none_iff] at own
  exact own

theorem exists_find? (holds : db.Holds name (some l)) :
    ∃ c, db.find? name = some c ∧ c.documents = l.documents :=
  Option.map_eq_some_iff.mp holds.own

theorem find?_documents (holds : db.Holds name s) (other : String) :
    (db.find? other).map (·.documents) =
      (if other = name then s else none).map Ledger.documents := by
  split
  · next same => exact same ▸ holds.own
  · next away => rw [holds.others other away]; rfl

theorem documents (holds : db.Holds name s) :
    db.documents name = (s.getD .empty).documents := by
  cases s with
  | none => exact documents_of_missing holds.missing
  | some l =>
    obtain ⟨c, found, own⟩ := holds.exists_find?
    exact (documents_of_find? found).trans own

theorem insertAll (holds : db.Holds name (some l)) (n : Nat) (es : List Entry) :
    (fun _ => ()) <$> (insertAll name n (es.map Entry.document) db).1 = (l.addAll name es).1 ∧
      (insertAll name n (es.map Entry.document) db).2.Holds name (some (l.addAll name es).2) := by
  induction es generalizing db l n with
  | nil => exact ⟨rfl, holds⟩
  | cons e rest ih =>
    have opened : (db.opened name).documents = l.documents := holds.documents
    have named : (e.document.get? Document.idKey).getD .null = .string e.id := rfl
    have taken : (l.documents.any fun d => d.get? Document.idKey == some (.string e.id)) = true ↔
        e.id ∈ l.ids := by
      rw [Ledger.documents, List.any_map, List.any_eq_true, Ledger.ids, List.mem_map]
      exact exists_congr fun old => and_congr_right fun _ =>
        same_named.trans ⟨fun named => Json.string.inj (Option.some.inj named), fun h => h ▸ rfl⟩
    rw [List.map_cons, Database.insertAll, identify_of_id rfl, Ledger.addAll]
    simp only [named, opened, taken]
    by_cases known : e.id ∈ l.ids
    · rw [if_pos known, dif_neg (not_not_intro known)]
      exact ⟨rfl, holds⟩
    · rw [if_neg known, dif_pos known]
      refine ih (holds.put ?_) (n + 1)
      exact (l.documents_add e known).symm

theorem insert (holds : db.Holds name (some l)) (es : List Entry) :
    (fun _ => ()) <$> (Database.insert name (es.map Entry.document) db).1 = (l.addAll name es).1 ∧
      (Database.insert name (es.map Entry.document) db).2.Holds name
        (some (l.addAll name es).2) :=
  (holds.put (c := db.opened name) holds.documents).insertAll 0 es

theorem update (holds : db.Holds name s) (id : String) {v : VectorStore} {c : Change}
    {fields : Object} (made : v.changedFields c = .ok fields) :
    (·.matched) <$>
        (Database.update name (Document.withId id) [("$set", .object fields)] db).1 =
          .ok (if id ∈ (s.getD .empty).ids then 1 else 0) ∧
      (Database.update name (Document.withId id) [("$set", .object fields)] db).2.Holds name
        (s.map (·.change id c)) := by
  unfold Database.update
  cases s with
  | none =>
    rw [holds.missing]
    exact ⟨rfl, holds⟩
  | some l =>
    obtain ⟨c, found, own⟩ := holds.exists_find?
    rw [found]
    simp only [own]
    obtain ⟨matched, left⟩ := updateFirst_documents l id made
    exact ⟨matched, holds.put left⟩

theorem deleteOne (holds : db.Holds name s) (id : String) :
    (Database.deleteOne name (Document.withId id) db).1 =
        .ok (if id ∈ (s.getD .empty).ids then 1 else 0) ∧
      (Database.deleteOne name (Document.withId id) db).2.Holds name (s.map (·.without id)) := by
  unfold Database.deleteOne
  cases s with
  | none =>
    rw [holds.missing]
    exact ⟨rfl, holds⟩
  | some l =>
    obtain ⟨c, found, own⟩ := holds.exists_find?
    rw [found]
    simp only [own, deleteFirst_documents]
    exact ⟨rfl, holds.put rfl⟩

theorem deleteMany (holds : db.Holds name s) (now : Int) :
    (Database.deleteMany name (Sweep.expired now) db).1 =
        .ok ((s.getD .empty).entries.countP (·.due now)) ∧
      (Database.deleteMany name (Sweep.expired now) db).2.Holds name
        (s.map (·.keep (!·.due now))) := by
  unfold Database.deleteMany
  cases s with
  | none =>
    rw [holds.missing]
    exact ⟨rfl, holds⟩
  | some l =>
    obtain ⟨c, found, own⟩ := holds.exists_find?
    rw [found]
    have due := l.filter_documents (Entry.due_document now)
    have kept : l.documents.filter (!Sweep.due now ·) = (l.keep (!·.due now)).documents :=
      l.filter_documents fun e => congrArg not (e.due_document now)
    simp only [own, deleteSelected_of_satisfies fun d _ => Sweep.satisfies_expired now d]
    refine ⟨?_, holds.put kept⟩
    rw [List.countP_eq_length_filter, due, List.countP_eq_length_filter]
    exact congrArg Except.ok (List.length_map _)

theorem find (holds : db.Holds name s) (limit : Nat) :
    Database.find name [] (some (limit + 1)) db =
      .ok ((s.getD .empty).documents.take (limit + 1)) := by
  unfold Database.find
  cases s with
  | none =>
    rw [holds.missing]
    rfl
  | some l =>
    obtain ⟨c, found, own⟩ := holds.exists_find?
    rw [found]
    have judged : ∀ d ∈ l.documents, d.satisfies [] = .ok true := fun _ _ => rfl
    simp only [own, selectFirst_of_satisfies judged, List.filter_true]
    rfl

theorem statistics (holds : db.Holds name s) (target : String) :
    ∃ indexes, Database.statistics (Document.command statisticsCommand target) db =
      if target.isEmpty then .error (.store (.commandWithoutCollection statisticsCommand))
      else match if target = name then s else none with
        | none => .error (.notFound (.collection target))
        | some l => .ok (l.statistics target indexes) := by
  have here := holds.find?_documents target
  unfold Database.statistics
  rw [namedCollection_command]
  cases target.isEmpty with
  | true => exact ⟨.null, rfl⟩
  | false =>
    simp only [Bool.false_eq_true, if_false, Fallible.ok_bind, existing]
    cases kept : (if target = name then s else none) with
    | none =>
      rw [kept, Option.map_none, Option.map_eq_none_iff] at here
      exact ⟨.null, by rw [here]; rfl⟩
    | some l =>
      rw [kept, Option.map_some, Option.map_eq_some_iff] at here
      obtain ⟨c, found, own⟩ := here
      refine ⟨.ofNat (c.indexes.length + 1), ?_⟩
      have size : c.documents.foldl (fun n d => n + Document.size d) 0 = l.size := by
        rw [own, Ledger.size, List.sum_eq_foldl, List.foldl_map]
      have count : c.documents.length = l.entries.length := by
        rw [own, Ledger.documents, List.length_map]
      simp only [found, Fallible.ok_bind, size, count]
      rfl

theorem dropCollection (holds : db.Holds name s) (dropped : String) :
    (execute (.dropCollection dropped) db).2.Holds name (if dropped = name then none else s) where
  online := holds.online
  own := by
    simp only [execute, find?, NameMap.get?_erase, eq_comm (a := name)]
    split
    · rfl
    · exact holds.own
  others other away := by
    simp only [execute, find?, NameMap.get?_erase]
    split
    · rfl
    · exact holds.others other away

end Holds

end Database

end MemoryBank
