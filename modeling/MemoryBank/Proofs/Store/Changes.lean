import MemoryBank.Proofs.Store.Paths
import MemoryBank.Proofs.Store.Searching

set_option autoImplicit false

/-!
What changes through the adapter do to the document of a memory: each entry is written under its key
in the payload, and the document is found under its id again.
-/

namespace MemoryBank

theorem Object.setPath_payload {d o : Object} (lies : d.get? payloadKey = some (.object o))
    {key : String} (part : Path.IsPart key) (v : Json) :
    d.setPath v (Path.ofText (payloadKey ++ "." ++ key)) =
      .ok (d.insert payloadKey (.object (o.insert key v))) := by
  rw [Path.ofText_append (by decide), Path.ofText_of_isPart part]
  simp only [setPath, lies]
  rfl

theorem Object.setPath_vector (d : Object) (v : Json) :
    d.setPath v (Path.ofText vectorPath) = .ok (d.insert vectorPath v) := by
  rw [Path.ofText_of_isPart (by decide)]
  rfl

namespace Update

/-- A path that a change through the adapter may set. -/
def Allowed (path : String) : Prop :=
  path = vectorPath ∨ ∃ key, path = payloadKey ++ "." ++ key ∧ Path.IsPart key

theorem prefix_injective {a b : String} :
    payloadKey ++ "." ++ a = payloadKey ++ "." ++ b ↔ a = b := by
  simp

theorem prefix_ne_vectorPath (key : String) : vectorPath ≠ payloadKey ++ "." ++ key := by
  intro same
  have letters := congrArg String.toList same
  simp [vectorPath, payloadKey] at letters

theorem prefix_ne_id (key : String) : payloadKey ++ "." ++ key ≠ "_id" := by
  intro same
  have letters := congrArg String.toList same
  simp [payloadKey] at letters

theorem apply_set (fields : Object) (d : Document) :
    apply [("$set", .object fields)] d = setAll fields d := by
  have only : apply [("$set", .object fields)] d = applyAll [("$set", .object fields)] d := rfl
  have set : modify "$set" fields d = setAll fields d := rfl
  rw [only, applyAll, set]
  rcases setAll fields d with ⟨_ | _, d'⟩ <;> rfl

theorem setAll_cons {path : String} {v : Json} {rest : Object} {d d' : Document}
    (other : path ≠ "_id")
    (set : d.setPath v (Path.ofText path) = .ok d') :
    setAll ((path, v) :: rest) d = setAll rest d' := by
  rw [setAll, if_neg other, set]

/-- One payload is another with entries written over it. -/
structure Written (entry : String → Option Json) (o o' : Object) : Prop where
  get? : ∀ key, o'.get? key = (entry key).or (o.get? key)
  once : ∀ key, o'.keys.count key ≤ max 1 (o.keys.count key)

theorem Written.trans {first second : String → Option Json} {o o' o'' : Object}
    (h : Written first o o') (h' : Written second o' o'') :
    Written (fun key => (second key).or (first key)) o o'' where
  get? key := by rw [h'.get?, h.get?, Option.or_assoc]
  once key := by
    have before := h.once key
    have behind := h'.once key
    omega

theorem setAll_allowed {fields : Object} (allowed : ∀ path ∈ fields.keys, Allowed path)
    {d : Document} {o : Object} (lies : d.get? payloadKey = some (.object o)) :
    ∃ d' o', setAll fields d = (.ok (), d') ∧ d'.get? Document.idKey = d.get? Document.idKey ∧
      d'.get? payloadKey = some (.object o') ∧
      Written (fun key => Object.get? fields.reverse (payloadKey ++ "." ++ key)) o o' := by
  induction fields generalizing d o with
  | nil =>
    refine ⟨d, o, rfl, rfl, lies, ⟨fun key => rfl, fun key => Nat.le_max_right _ _⟩⟩
  | cons e rest ih =>
    obtain ⟨path, v⟩ := e
    rw [Object.keys_cons, List.forall_mem_cons] at allowed
    rcases allowed.1 with rfl | ⟨key, rfl, part⟩
    · have kept : (d.insert vectorPath v).get? payloadKey = some (.object o) :=
        (Object.get?_insert_of_ne d v (by decide)).trans lies
      obtain ⟨d', o', set, id, shows, written⟩ := ih allowed.2 kept
      refine ⟨d', o', ?_, id.trans (Object.get?_insert_of_ne d v (by decide)), shows,
        fun k => ?_, written.once⟩
      · rw [setAll_cons (by decide) (Object.setPath_vector d v)]
        exact set
      · rw [written.get?, List.reverse_cons, Object.get?_append, Object.get?_cons,
          if_neg (prefix_ne_vectorPath k), Object.get?_nil, Option.or_none]
    · have kept : (d.insert payloadKey (.object (o.insert key v))).get? payloadKey =
          some (.object (o.insert key v)) := Object.get?_insert_self ..
      obtain ⟨d', o', set, id, shows, written⟩ := ih allowed.2 kept
      refine ⟨d', o', ?_, id.trans (Object.get?_insert_of_ne d _ (by decide)), shows,
        fun k => ?_, fun k => ?_⟩
      · rw [setAll_cons (prefix_ne_id key) (Object.setPath_payload lies part v)]
        exact set
      · simp only [written.get?, List.reverse_cons, Object.get?_append, Object.get?_cons,
          Object.get?_nil, Object.get?_insert, Option.or_assoc, prefix_injective]
        split <;> rfl
      · have before := Object.count_keys_insert o key k v
        have behind := written.once k
        omega

end Update

namespace Change

/-- What a change writes under a key of the payload. -/
def entry (c : Change) (key : String) : Option Json :=
  if key = "data" then c.content.map .string else Object.get? (c.metadata.getD []).reverse key

/-- What several changes, one after another, leave written under a key. -/
def latest : List Change → String → Option Json
  | [], _ => none
  | c :: rest, key => (latest rest key).or (c.entry key)

/-- The metadata of several changes, later ones over earlier ones. -/
def merged (changes : List Change) : Object :=
  Object.insertAll [] (changes.flatMap fun c => c.metadata.getD [])

/-- The content that is left of this one. -/
def contentAfter (changes : List Change) (content : String) : String :=
  changes.foldl (fun content c => c.content.getD content) content

theorem get?_merged (changes : List Change) {key : String} (other : key ≠ "data") :
    (merged changes).get? key = latest changes key := by
  rw [merged, Object.get?_insertAll, Object.get?_nil, Option.or_none]
  induction changes with
  | nil => rfl
  | cons c rest ih =>
    rw [List.flatMap_cons, List.reverse_append, Object.get?_append, ih, latest, entry, if_neg other]

theorem latest_data (changes : List Change) (content : String) :
    (latest changes "data").or (some (.string content)) =
      some (.string (contentAfter changes content)) := by
  induction changes generalizing content with
  | nil => rfl
  | cons c rest ih =>
    have first : (c.entry "data").or (some (.string content)) =
        some (.string (c.content.getD content)) := by
      rw [entry, if_pos rfl]
      cases c.content <;> rfl
    rw [latest, Option.or_assoc, first]
    exact ih (c.content.getD content)

def contentFields (c : Change) : Object :=
  match c.content with
  | some content => [(payloadKey ++ ".data", .string content)]
  | none => []

def vectorFields (c : Change) : Object :=
  match c.vector with
  | some vector => [(vectorPath, vector.toJson)]
  | none => []

theorem keys_vectorFields (c : Change) {path : String} (member : path ∈ c.vectorFields.keys) :
    path = vectorPath := by
  unfold vectorFields at member
  split at member
  · exact List.mem_singleton.mp member
  · cases member

def atPath (e : String × Json) : String × Json := (payloadKey ++ "." ++ e.1, e.2)

theorem get?_atPath (entries : Object) (key : String) :
    Object.get? (entries.map atPath) (payloadKey ++ "." ++ key) = entries.get? key := by
  induction entries with
  | nil => rfl
  | cons e rest ih =>
    obtain ⟨k, v⟩ := e
    simp only [List.map_cons, atPath, Object.get?_cons, Update.prefix_injective]
    split
    · rfl
    · exact ih

end Change

namespace VectorStore

theorem checkKey_eq_ok {key : String} (passed : checkKey key = .ok ()) :
    key ∉ Payload.reservedKeys ∧ Path.IsPart key := by
  unfold checkKey at passed
  split at passed
  · cases passed
  · next free =>
    split at passed
    · cases passed
    · next plain => exact ⟨by simpa using free, by simp_all [Path.IsPart]⟩

/-- The fields of an accepted change, and that none of its metadata has a reserved key. -/
theorem changedFields_eq_ok {v : VectorStore} {c : Change} {fields : Object}
    (made : v.changedFields c = .ok fields) :
    fields = (c.contentFields.insertAll ((c.metadata.getD []).map Change.atPath)).insertAll
        c.vectorFields ∧
      ∀ key ∈ Object.keys (c.metadata.getD []), key ∉ Payload.reservedKeys ∧ Path.IsPart key := by
  unfold changedFields at made
  obtain ⟨metadata, mapped, made⟩ := Fallible.bind_eq_ok.mp made
  have checked : ∀ e f, (do checkKey e.1; return (payloadKey ++ "." ++ e.1, e.2) :
      Result (String × Json)) = .ok f → checkKey e.1 = .ok () ∧ f = Change.atPath e := by
    intro e f passed
    obtain ⟨_, passed, value⟩ := Fallible.bind_eq_ok.mp passed
    exact ⟨passed, (Except.ok.inj value).symm⟩
  obtain rfl := Fallible.eq_map_of_mapM (fun e f passed => (checked e f passed).2) mapped
  have free : ∀ key ∈ Object.keys (c.metadata.getD []),
      key ∉ Payload.reservedKeys ∧ Path.IsPart key := by
    intro key member
    obtain ⟨e, listed, rfl⟩ := List.mem_map.mp member
    obtain ⟨f, -, passed⟩ := Fallible.exists_mem_of_mapM mapped listed
    exact checkKey_eq_ok (checked e f passed).1
  cases given : c.vector with
  | none =>
    rw [given] at made
    obtain rfl := Except.ok.inj made
    exact ⟨by rw [Change.vectorFields, given]; rfl, free⟩
  | some vector =>
    rw [given] at made
    obtain ⟨_, -, made⟩ := Fallible.bind_eq_ok.mp made
    obtain rfl := Except.ok.inj made
    exact ⟨by rw [Change.vectorFields, given]; rfl, free⟩

theorem changedFields_allowed {v : VectorStore} {c : Change} {fields : Object}
    (made : v.changedFields c = .ok fields) : ∀ path ∈ fields.keys, Update.Allowed path := by
  obtain ⟨rfl, free⟩ := changedFields_eq_ok made
  intro path member
  rw [Object.mem_keys_insertAll, Object.mem_keys_insertAll] at member
  rcases member with (content | metadata) | own
  · refine .inr ⟨"data", ?_, by decide⟩
    unfold Change.contentFields at content
    split at content
    · exact List.mem_singleton.mp content
    · cases content
  · obtain ⟨f, listed, rfl⟩ := List.mem_map.mp metadata
    obtain ⟨e, member, rfl⟩ := List.mem_map.mp listed
    exact .inr ⟨e.1, rfl, (free e.1 (List.mem_map.mpr ⟨e, member, rfl⟩)).2⟩
  · exact .inl (c.keys_vectorFields own)

theorem get?_changedFields {v : VectorStore} {c : Change} {fields : Object}
    (made : v.changedFields c = .ok fields) (key : String) :
    Object.get? fields.reverse (payloadKey ++ "." ++ key) = c.entry key := by
  obtain ⟨rfl, free⟩ := changedFields_eq_ok made
  have distinct : c.contentFields.keys.Nodup := by
    unfold Change.contentFields
    split <;> simp
  have nodup : ((c.contentFields.insertAll ((c.metadata.getD []).map Change.atPath)).insertAll
      c.vectorFields).keys.Nodup :=
    Object.nodup_keys_insertAll (Object.nodup_keys_insertAll distinct)
  have own : Object.get? c.vectorFields.reverse (payloadKey ++ "." ++ key) = none := by
    rw [Object.get?_eq_none]
    intro member
    have listed : payloadKey ++ "." ++ key ∈ c.vectorFields.keys := by
      simpa [Object.keys] using member
    exact Update.prefix_ne_vectorPath key (c.keys_vectorFields listed).symm
  rw [← Object.get?_perm (List.reverse_perm _).symm nodup, Object.get?_insertAll,
    Object.get?_insertAll, own, Option.none_or, ← List.map_reverse, Change.get?_atPath,
    Change.entry]
  have content : c.contentFields.get? (payloadKey ++ "." ++ key) =
      if key = "data" then c.content.map .string else none := by
    unfold Change.contentFields
    cases c.content with
    | none => simp
    | some text =>
      rw [show payloadKey ++ ".data" = payloadKey ++ "." ++ "data" by decide]
      simp only [Object.get?_cons, Object.get?_nil, Update.prefix_injective, eq_comm]
      rfl
  rw [content]
  by_cases data : key = "data"
  · have missing : Object.get? (c.metadata.getD []).reverse key = none := by
      rw [Object.get?_eq_none]
      intro member
      have listed : key ∈ Object.keys (c.metadata.getD []) := by simpa [Object.keys] using member
      exact (free key listed).1 (data ▸ by decide)
    rw [missing, Option.none_or, if_pos data]
  · rw [if_neg data, if_neg data, Option.or_none]

end VectorStore

namespace Document

def hasId (id : String) (d : Document) : Bool := matchesValue (d.get? idKey) (.string id)

theorem satisfies_withId (id : String) (d : Document) :
    d.satisfies (withId id) = .ok (hasId id d) := by
  have field : Query.fieldHolds d idKey (.string id) = .ok (hasId id d) := rfl
  have connective : idKey ≠ "$and" ∧ idKey ≠ "$or" := by decide
  simp only [satisfies, withId, Query.holds, Query.clauseHolds, connective.1, connective.2, or_self,
    if_false, field]
  cases hasId id d <;> rfl

end Document

namespace Database

theorem findOne_withId (db : Database) (name id : String) :
    findOne name (Document.withId id) db =
      .ok ((db.documents name).find? (Document.hasId id)) := by
  unfold findOne
  cases here : db.find? name with
  | none =>
    rw [documents_of_missing here]
    rfl
  | some c =>
    have judged : ∀ d ∈ c.documents,
        d.satisfies (Document.withId id) = .ok (Document.hasId id d) :=
      fun d _ => Document.satisfies_withId id d
    simp only [selectFirst_of_satisfies judged, Fallible.ok_map, documents_of_find? here]
    rw [List.head?_take, List.head?_filter]
    rfl

theorem updateFirst_withId {change d d' : Document} {id : String} {ds : List Document}
    (found : ds.find? (Document.hasId id) = some d) (changed : Update.apply change d = (.ok (), d'))
    (same : Document.hasId id d' = true) :
    ∃ count ds', updateFirst (Document.withId id) change ds = (.ok count, ds') ∧
      ds'.find? (Document.hasId id) = some d' := by
  induction ds with
  | nil => cases found
  | cons first rest ih =>
    rw [List.find?_cons] at found
    rw [updateFirst, Document.satisfies_withId]
    cases matched : Document.hasId id first with
    | true =>
      rw [matched] at found
      obtain rfl := Option.some.inj found
      simp only [changed]
      exact ⟨_, _, rfl, by simp [same]⟩
    | false =>
      rw [matched] at found
      obtain ⟨count, ds', updated, behind⟩ := ih found
      simp only [updated]
      exact ⟨count, first :: ds', rfl, by simp [matched, behind]⟩

theorem perform_update {db : Database} (online : db.offline = false) {name id : String}
    {change d d' : Document}
    (found : (db.documents name).find? (Document.hasId id) = some d)
    (changed : Update.apply change d = (.ok (), d')) (same : Document.hasId id d' = true) :
    (DocumentStore.perform (.update name (Document.withId id) change) db).2.offline = false ∧
      ((DocumentStore.perform (.update name (Document.withId id) change) db).2.documents name).find?
        (Document.hasId id) = some d' := by
  rw [perform_of_online online]
  obtain ⟨count, ds, updated, left⟩ := updateFirst_withId found changed same
  change (update name (Document.withId id) change (arrive _ db)).2.offline = false ∧
    ((update name (Document.withId id) change (arrive _ db)).2.documents name).find? _ = _
  unfold update
  cases here : (arrive (.update name (Document.withId id) change) db).find? name with
  | none =>
    rw [documents_of_missing (show db.find? name = none from here)] at found
    cases found
  | some c =>
    rw [documents_of_find? (show db.find? name = some c from here)] at updated
    simp only [updated, documents_put, if_true]
    exact ⟨online, left⟩

end Database

namespace VectorStore

theorem run_get_eq_ok_iff {v : VectorStore} {id : String} {w w' : World Database}
    {m : StoredMemory} :
    Task.run (v.get id) w = (.ok m, w') ↔
      w.store.offline = false ∧
        w' = { w with store := .arrive (.findOne v.collection (Document.withId id)) w.store } ∧
        ∃ d, (w.store.documents v.collection).find? (Document.hasId id) = some d ∧
          StoredMemory.ofDocument none d = .ok m := by
  rw [get, Task.run_bind, Task.run_call]
  cases online : w.store.offline with
  | true =>
    rw [Database.perform_of_offline online]
    simp
  | false =>
    have answered : Database.execute (.findOne v.collection (Document.withId id))
        (.arrive (.findOne v.collection (Document.withId id)) w.store) =
          (.ok ((w.store.documents v.collection).find? (Document.hasId id)),
            .arrive (.findOne v.collection (Document.withId id)) w.store) :=
      Prod.ext (Database.findOne_withId (.arrive _ w.store) v.collection id) rfl
    rw [Database.perform_of_online online, answered]
    simp only
    cases (w.store.documents v.collection).find? (Document.hasId id) with
    | none => simp
    | some d => simp [eq_comm, and_comm]

/-- A document found under an id, its payload and what the id stands beside. -/
structure Finds (v : VectorStore) (id : String) (w : World Database) (d : Document) (o : Object) :
    Prop where
  online : w.store.offline = false
  found : (w.store.documents v.collection).find? (Document.hasId id) = some d
  payload : d.get? payloadKey = some (.object o)

theorem hasId_congr {d d' : Document} (same : d'.get? Document.idKey = d.get? Document.idKey)
    (id : String) : Document.hasId id d' = Document.hasId id d := by
  rw [Document.hasId, Document.hasId, same]

theorem run_update_eq_ok {v : VectorStore} {id : String} {c : Change} {w w' : World Database}
    {d : Document} {o : Object} (before : Finds v id w d o)
    (updated : Task.run (v.update id c) w = (.ok (), w')) :
    ∃ d' o', Finds v id w' d' o' ∧ d'.get? Document.idKey = d.get? Document.idKey ∧
      Update.Written c.entry o o' ∧
      ∀ key ∈ Object.keys (c.metadata.getD []), key ∉ Payload.reservedKeys := by
  unfold update at updated
  split at updated
  · cases (Prod.mk.inj updated).1
  obtain ⟨fields, w₁, checked, updated⟩ := Task.run_bind_eq_ok updated
  obtain ⟨made, rfl⟩ := Prod.mk.inj checked
  obtain ⟨count, w₂, called, updated⟩ := Task.run_bind_eq_ok updated
  obtain ⟨d', o', set, sameId, shows, written⟩ :=
    Update.setAll_allowed (changedFields_allowed made) before.payload
  have changed := (Update.apply_set fields d).trans set
  have own : Document.hasId id d' = true :=
    (hasId_congr sameId id).trans (List.find?_some before.found)
  have stored := Database.perform_update before.online before.found changed own
  have last : w₂ = w' := by
    split at updated
    · cases (Prod.mk.inj updated).1
    · exact (Prod.mk.inj updated).2
  obtain ⟨called, -⟩ := Task.run_call_eq_ok called
  rw [called, last] at stored
  obtain ⟨-, free⟩ := changedFields_eq_ok made
  refine ⟨d', o', ⟨stored.1, stored.2, shows⟩, sameId, ⟨fun key => ?_, written.once⟩,
    fun key member => (free key member).1⟩
  rw [written.get?, get?_changedFields made]

theorem run_updates_eq_ok {v : VectorStore} {id : String} {changes : List Change}
    {w w' : World Database} {d : Document} {o : Object} (before : Finds v id w d o)
    (updated : Task.run (changes.forM (v.update id)) w = (.ok (), w')) :
    ∃ d' o', Finds v id w' d' o' ∧ d'.get? Document.idKey = d.get? Document.idKey ∧
      Update.Written (Change.latest changes) o o' ∧
      ∀ key ∈ Payload.reservedKeys, key ∉ (Change.merged changes).keys := by
  induction changes generalizing w d o with
  | nil =>
    obtain ⟨-, rfl⟩ := Prod.mk.inj updated
    exact ⟨d, o, before, rfl, ⟨fun key => rfl, fun key => Nat.le_max_right _ _⟩,
      fun key _ => List.not_mem_nil⟩
  | cons c rest ih =>
    obtain ⟨_, w₁, first, updated⟩ := Task.run_bind_eq_ok (t := v.update id c) updated
    obtain ⟨d₁, o₁, between, sameId, written, free⟩ := run_update_eq_ok before first
    obtain ⟨d', o', after, sameId', written', free'⟩ := ih between updated
    refine ⟨d', o', after, sameId'.trans sameId, written.trans written', ?_⟩
    intro key reserved member
    rw [Change.merged, List.flatMap_cons, Object.mem_keys_insertAll, Object.keys_append,
      List.mem_append] at member
    rcases member with none | own | behind
    · cases none
    · exact free key own reserved
    · exact free' key reserved (Object.mem_keys_insertAll.mpr (.inr behind))

end VectorStore

end MemoryBank
