import MemoryBank.Memory.Payload
import MemoryBank.Proofs.Decode.Fields

set_option autoImplicit false

/-!
Payloads written to documents and read back. What stands among the metadata under the second name of
the session is taken for the session; everything else comes back as it was.
-/

namespace MemoryBank

/-- The second name of the session. -/
def sessionAlias : String := "session_id"

namespace Scope

/-- The session and the metadata as they are read out of the same entries. -/
def readSession (session : Option String) (metadata : Object) :
    Except Mismatch (Option String × Object) :=
  match metadata.get? sessionAlias with
  | none => .ok (session, metadata)
  | some v =>
      if session.isSome then .error (.duplicateField "run_id")
      else do return (← Decode.optional Decode.text v, metadata.filter (·.1 != sessionAlias))

theorem readSession_metadata {session : Option String} {metadata : Object}
    {r : Option String × Object} (h : readSession session metadata = .ok r) :
    r.2 = metadata.filter (·.1 != sessionAlias) := by
  unfold readSession at h
  split at h
  · next missing =>
    obtain rfl := Except.ok.inj h
    exact (Object.filter_of_not_mem (Object.get?_eq_none.mp missing)).symm
  · split at h
    · cases h
    · obtain ⟨session, -, value⟩ := Fallible.bind_eq_ok.mp h
      obtain rfl := Except.ok.inj value
      rfl

theorem readSession_keeps {session : Option String} {metadata : Object} :
    (∃ rest, readSession session metadata = .ok (session, rest)) ↔
      metadata.get? sessionAlias = none ∨
        metadata.get? sessionAlias = some .null ∧ session = none := by
  unfold readSession
  cases metadata.get? sessionAlias with
  | none => simp
  | some v =>
    cases session with
    | some session => simp
    | none =>
      cases v <;> simp [Decode.optional, Decode.text, Decode.mismatch, pure, Except.pure]

theorem answersTo_eq_none {key : String} (owner : key ∉ keys) (other : key ≠ sessionAlias) :
    fields.find? (·.answersTo key) = none := by
  simp only [keys, List.mem_cons, List.not_mem_nil, or_false, not_or] at owner
  simp only [fields, Field.answersTo, Field.optional, Field.orNamed, List.find?_eq_none]
  simpa [owner] using fun same : "session_id" = key => other same.symm

theorem sortOut_metadata {metadata : Object} (distinct : metadata.keys.Nodup)
    (free : ∀ key ∈ metadata.keys, key ∉ keys) (seen : List String) :
    Fields.sortOut fields seen metadata =
      match metadata.get? sessionAlias with
      | none => .ok ([], metadata)
      | some v =>
          if "run_id" ∈ seen then .error (.duplicateField "run_id")
          else do
            (Field.optional "run_id" Decode.text).check v
            return ([("run_id", v)], metadata.filter (·.1 != sessionAlias)) := by
  induction metadata with
  | nil => rfl
  | cons e rest ih =>
    obtain ⟨key, v⟩ := e
    rw [Object.keys_cons, List.nodup_cons] at distinct
    rw [Object.keys_cons, List.forall_mem_cons] at free
    -- keys are distinct, so behind the second name there is nothing that a field answers to
    by_cases second : key = sessionAlias
    · subst second
      have unknown : ∀ key ∈ Object.keys rest, fields.find? (·.answersTo key) = none := by
        intro key member
        exact answersTo_eq_none (free.2 key member) fun same => distinct.1 (same ▸ member)
      have others := Object.filter_of_not_mem distinct.1
      have behind (seen : List String) : Fields.sortOut fields seen rest = .ok ([], rest) := by
        simpa [Fields.sortOut] using Fields.sortOut_unknown unknown seen []
      have answers : fields.find? (·.answersTo sessionAlias) =
          some ((Field.optional "run_id" Decode.text).orNamed sessionAlias) := rfl
      simp only [Fields.sortOut, answers, behind, Object.get?_cons, if_true]
      by_cases known : "run_id" ∈ seen
      · simp [Field.orNamed, Field.optional, known]
      · simp [Field.orNamed, Field.optional, known, others]
        rfl
    · have unknown := answersTo_eq_none free.1 second
      simp only [Fields.sortOut, unknown, ih distinct.2 free.2, Object.get?_cons, second, if_false]
      have kept : ((key, v) :: rest).filter (·.1 != sessionAlias) =
          (key, v) :: rest.filter (·.1 != sessionAlias) := by
        simp [second]
      rw [kept]
      cases Object.get? rest sessionAlias with
      | none => rfl
      | some w =>
        by_cases known : "run_id" ∈ seen
        · simp [known]
        · simp only [known, if_false]
          cases (Field.optional "run_id" Decode.text).check w <;> rfl

theorem mem_entries {s : Scope} {e : String × Json} (h : e ∈ s.entries) :
    e.1 ∈ keys ∧ ∃ name, e.2 = .string name := by
  obtain ⟨⟨key, owner⟩, member, entry⟩ := List.mem_filterMap.mp h
  obtain ⟨name, -, rfl⟩ := Option.map_eq_some_iff.mp entry
  refine ⟨?_, name, rfl⟩
  have among := List.mem_map_of_mem (f := Prod.fst) member
  simpa [owners, keys] using among

theorem keys_entries (s : Scope) : s.entries.keys.Sublist keys := by
  obtain ⟨user, agent, session⟩ := s
  cases user <;> cases agent <;> cases session <;> simp [entries, owners, keys, Object.keys]

theorem sortOut_entries (s : Scope) (metadata : Object) :
    Fields.sortOut fields [] (s.entries ++ metadata) =
      (fun r => (s.entries ++ r.1, r.2)) <$>
        Fields.sortOut fields s.entries.keys.reverse metadata := by
  rw [Fields.sortOut_named _ ((keys_entries s).nodup (by decide)) (by simp), List.append_nil]
  intro e member
  obtain ⟨known, name, text⟩ := mem_entries member
  rw [text]
  simp only [keys, List.mem_cons, List.not_mem_nil, or_false] at known
  rcases known with key | key | key <;> rw [key]
  · exact ⟨.optional "user_id" Decode.text, rfl, rfl, rfl⟩
  · exact ⟨.optional "agent_id" Decode.text, rfl, rfl, rfl⟩
  · exact ⟨(Field.optional "run_id" Decode.text).orNamed sessionAlias, rfl, rfl, rfl⟩

theorem ofFields_entries (s : Scope) : ofFields s.entries = .ok s := by
  obtain ⟨user, agent, session⟩ := s
  cases user <;> cases agent <;> cases session <;> rfl

theorem ofFields_entries_run (user agent : Option String) (v : Json) :
    ofFields ((Scope.mk user agent none).entries ++ [("run_id", v)]) =
      (fun session => ⟨user, agent, session⟩) <$> Decode.optional Decode.text v := by
  cases user <;> cases agent <;> rfl

theorem among_entries (s : Scope) {metadata : Object} (distinct : metadata.keys.Nodup)
    (free : ∀ key ∈ metadata.keys, key ∉ keys) :
    among (s.entries ++ metadata) =
      (fun r => ({ s with session := r.1 }, r.2)) <$> readSession s.session metadata := by
  have filled (known : Object) : Fields.requireAll fields known = .ok () := rfl
  -- the second name is refused where the first has been seen
  have seen : "run_id" ∈ s.entries.keys.reverse ↔ s.session.isSome = true := by
    obtain ⟨user, agent, session⟩ := s
    cases user <;> cases agent <;> cases session <;> simp [entries, owners, Object.keys]
  rw [among, Fields.ofObject, sortOut_entries, sortOut_metadata distinct free, readSession]
  cases metadata.get? sessionAlias with
  | none => simp [filled, ofFields_entries, pure, Except.pure]
  | some v =>
    obtain ⟨user, agent, session⟩ := s
    cases session with
    | some session => simp [seen]
    | none =>
      simp only [seen, Option.isSome_none, Bool.false_eq_true, if_false]
      have checked : (Field.optional "run_id" Decode.text).check v =
          (fun _ => ()) <$> Decode.optional Decode.text v := rfl
      rw [checked]
      cases read : Decode.optional Decode.text v with
      | error cause => rfl
      | ok session => simp [filled, ofFields_entries_run, read, pure, Except.pure]

end Scope

namespace Payload

/-- What the ways to build a payload ensure. -/
structure Storable (p : Payload) : Prop where
  inRange : ∀ time, p.expiresAt = some time → -Word.half64 ≤ time ∧ time < Word.half64
  distinct : p.metadata.keys.Nodup
  free : ∀ key ∈ p.metadata.keys, key ∉ reservedKeys

def expiryEntries (p : Payload) : Object :=
  match p.expiresAt with
  | some time => [(expiryKey, .ofInt time)]
  | none => []

def ownEntries (p : Payload) : Object :=
  ("data", .string p.content) :: ("category", p.category.toJson) :: p.expiryEntries

theorem typedEntries_eq (p : Payload) :
    p.typedEntries = ("data", .string p.content) :: ("category", p.category.toJson) ::
      (p.scope.entries ++ p.expiryEntries) := rfl

theorem typedEntries_reserved {p : Payload} {key : String} (h : key ∈ p.typedEntries.keys) :
    key ∈ reservedKeys := by
  have owners : ∀ key ∈ p.scope.entries.keys, key ∈ reservedKeys := by
    intro key member
    exact (by decide : ∀ key ∈ Scope.keys, key ∈ reservedKeys) key
      ((Scope.keys_entries p.scope).subset member)
  have expiry : ∀ key ∈ p.expiryEntries.keys, key ∈ reservedKeys := by
    intro key member
    unfold expiryEntries at member
    split at member
    · obtain rfl := List.mem_singleton.mp member
      exact (by decide : expiryKey ∈ reservedKeys)
    · cases member
  rw [typedEntries_eq, Object.keys_cons, Object.keys_cons, Object.keys_append] at h
  rcases List.mem_cons.mp h with rfl | h
  · decide
  rcases List.mem_cons.mp h with rfl | h
  · decide
  rcases List.mem_append.mp h with h | h
  · exact owners key h
  · exact expiry key h

theorem Storable.toDocument_eq {p : Payload} (h : p.Storable) :
    p.toDocument = p.typedEntries ++ p.metadata :=
  Object.insertAll_of_disjoint h.distinct fun key member typed =>
    h.free key member (typedEntries_reserved typed)

theorem answersTo_eq_none {key : String}
    (other : key ≠ "data" ∧ key ≠ "category" ∧ key ≠ expiryKey) :
    fields.find? (·.answersTo key) = none := by
  simp only [fields, Field.answersTo, Field.optional, Field.required, List.find?_eq_none]
  simpa [expiryKey] using other

theorem decode_category (c : Category) : Category.decode c.toJson = .ok c := by
  cases c <;> rfl

theorem Storable.decode_expiry {p : Payload} (h : p.Storable) {time : Int}
    (expires : p.expiresAt = some time) : Decode.int64 (.ofInt time) = .ok time :=
  if_pos (h.inRange time expires)

theorem Storable.sortOut_toDocument {p : Payload} (h : p.Storable) :
    Fields.sortOut fields [] p.toDocument =
      .ok (p.ownEntries, p.scope.entries ++ p.metadata) := by
  -- the owners and the metadata answer to no field here, and are left for the scope
  have owners : ∀ key ∈ p.scope.entries.keys, fields.find? (·.answersTo key) = none := by
    intro key member
    have owner := (Scope.keys_entries p.scope).subset member
    exact answersTo_eq_none ((by decide : ∀ key ∈ Scope.keys,
      key ≠ "data" ∧ key ≠ "category" ∧ key ≠ expiryKey) key owner)
  have metadata : ∀ key ∈ p.metadata.keys, fields.find? (·.answersTo key) = none := by
    intro key member
    have free := h.free key member
    simp only [reservedKeys, List.mem_cons, not_or] at free
    exact answersTo_eq_none ⟨free.1, free.2.1, free.2.2.2.2.2.1⟩
  have category : (Field.required "category" Category.decode).check p.category.toJson = .ok () := by
    simp [Field.required, decode_category]
  have expiry (seen : List String) (new : expiryKey ∉ seen) :
      Fields.sortOut fields seen (p.expiryEntries ++ p.metadata) =
        .ok (p.expiryEntries, p.metadata) := by
    have behind (seen : List String) :
        Fields.sortOut fields seen p.metadata = .ok ([], p.metadata) := by
      simpa [Fields.sortOut] using Fields.sortOut_unknown metadata seen []
    unfold expiryEntries
    split
    · next time expires =>
      have checked : (Field.optional expiryKey Decode.int64).check (.ofInt time) = .ok () := by
        change (fun _ => ()) <$> (some <$> Decode.int64 (.ofInt time)) = _
        rw [h.decode_expiry expires]
        rfl
      rw [List.singleton_append, Fields.sortOut_known (by rfl) (by exact new) checked, behind]
      rfl
    · exact behind seen
  rw [h.toDocument_eq, typedEntries_eq, List.cons_append, List.cons_append, List.append_assoc,
    Fields.sortOut_known (by rfl) (by simp) rfl, Fields.sortOut_known (by rfl) (by decide) category,
    Fields.sortOut_unknown owners, expiry _ (by decide)]
  rfl

/-- A payload as its document is read: a session named among the metadata is moved to the scope. -/
def readBack (p : Payload) : Except Mismatch Payload := do
  let (session, metadata) ← Scope.readSession p.scope.session p.metadata
  return { p with scope := { p.scope with session := session }, metadata := metadata }

theorem Storable.ofObject_toDocument {p : Payload} (h : p.Storable) :
    ofObject p.toDocument = p.readBack := by
  have free : ∀ key ∈ p.metadata.keys, key ∉ Scope.keys := by
    intro key member owner
    exact h.free key member ((by decide : ∀ key ∈ Scope.keys, key ∈ reservedKeys) key owner)
  have required : Fields.requireAll fields p.ownEntries = .ok () := rfl
  have content : Fields.get p.ownEntries "data" Decode.text = .ok p.content := rfl
  have category : Fields.get p.ownEntries "category" Category.decode = .ok p.category :=
    decode_category p.category
  have expiry : Fields.get? p.ownEntries expiryKey Decode.int64 = .ok p.expiresAt := by
    cases expires : p.expiresAt with
    | none =>
      have missing : p.ownEntries.get? expiryKey = none := by
        simp [ownEntries, expiryEntries, expires, expiryKey]
      rw [Fields.get?, Fields.get, missing]
      rfl
    | some time =>
      have found : p.ownEntries.get? expiryKey = some (.ofInt time) := by
        simp [ownEntries, expiryEntries, expires, expiryKey]
      rw [Fields.get?, Fields.get, found]
      change some <$> Decode.int64 (.ofInt time) = _
      rw [h.decode_expiry expires]
      rfl
  rw [ofObject, Fields.ofObject, h.sortOut_toDocument]
  simp only [Fallible.ok_bind, required, pure, Except.pure,
    Scope.among_entries p.scope h.distinct free, readBack]
  cases Scope.readSession p.scope.session p.metadata with
  | error cause => rfl
  | ok r => simp [content, category, expiry]

theorem Storable.ofDocument_eq_ok {p q : Payload} (h : p.Storable) :
    ofDocument p.toDocument = .ok q ↔ p.readBack = .ok q := by
  rw [ofDocument, h.ofObject_toDocument]
  cases p.readBack <;> simp

theorem readBack_of_not_mem {p : Payload} (h : sessionAlias ∉ p.metadata.keys) :
    p.readBack = .ok p := by
  rw [readBack, Scope.readSession, Object.get?_eq_none.mpr h]
  rfl

theorem readBack_eq_ok {p q : Payload} (h : p.readBack = .ok q) :
    q = { p with
      scope := { p.scope with session := q.scope.session }
      metadata := p.metadata.filter (·.1 != sessionAlias) } := by
  obtain ⟨⟨session, metadata⟩, read, value⟩ := Fallible.bind_eq_ok.mp h
  obtain rfl := Except.ok.inj value
  rw [← Scope.readSession_metadata read]

/-- Payloads as they are built, with the objects merged into their metadata, latest first. -/
inductive Built : List Object → Payload → Prop
  | new (content : String) (category : Category) (scope : Scope) :
      Built [] (Payload.new content category scope)
  | withExpiry {merged : List Object} {p : Payload} (built : Built merged p) {time : Int}
      (inRange : -Word.half64 ≤ time ∧ time < Word.half64) : Built merged (p.withExpiry time)
  | merge {merged : List Object} {p : Payload} (built : Built merged p) (m : Object) :
      Built (m :: merged) (p.mergeMetadata m)

theorem mem_keys_mergeMetadata {p : Payload} {m : Object} {key : String} :
    key ∈ (p.mergeMetadata m).metadata.keys ↔
      key ∈ p.metadata.keys ∨ key ∈ m.keys ∧ key ∉ reservedKeys := by
  have filtered :
      key ∈ Object.keys (m.filter fun e => !reservedKeys.contains e.1) ↔
        key ∈ m.keys ∧ key ∉ reservedKeys := by
    simp only [Object.keys, List.mem_map, List.mem_filter]
    constructor
    · rintro ⟨e, ⟨member, free⟩, rfl⟩
      exact ⟨⟨e, member, rfl⟩, by simpa using free⟩
    · rintro ⟨⟨e, member, rfl⟩, free⟩
      exact ⟨e, ⟨member, by simpa using free⟩, rfl⟩
  rw [mergeMetadata, Object.mem_keys_insertAll, filtered]

theorem get?_mergeMetadata_new (content : String) (category : Category) (scope : Scope) {m : Object}
    (distinct : m.keys.Nodup) {key : String} (free : key ∉ reservedKeys) :
    ((new content category scope).mergeMetadata m).metadata.get? key = m.get? key := by
  have merged : ((new content category scope).mergeMetadata m).metadata =
      m.filter fun e => !reservedKeys.contains e.1 :=
    Object.insertAll_of_disjoint (Object.nodup_keys_filter distinct _) fun _ _ => List.not_mem_nil
  rw [merged, Object.get?_filter m (p := fun k => !reservedKeys.contains k) (by simpa using free)]

theorem Storable.mergeMetadata {p : Payload} (h : p.Storable) (m : Object) :
    (p.mergeMetadata m).Storable where
  inRange := h.inRange
  distinct := Object.nodup_keys_insertAll h.distinct
  free := by
    intro key member
    rcases mem_keys_mergeMetadata.mp member with old | new
    · exact h.free key old
    · exact new.2

theorem Built.storable {merged : List Object} {p : Payload} (built : Built merged p) :
    p.Storable := by
  induction built with
  | new content category scope =>
    exact ⟨fun _ expires => (by cases expires), .nil, fun _ member => (by cases member)⟩
  | withExpiry built inRange ih =>
    exact ⟨fun time expires => Option.some.inj expires ▸ inRange, ih.distinct, ih.free⟩
  | merge built m ih => exact ih.mergeMetadata m

theorem Built.mem_keys {merged : List Object} {p : Payload} (built : Built merged p)
    {key : String} (free : key ∉ reservedKeys) :
    key ∈ p.metadata.keys ↔ ∃ m ∈ merged, key ∈ m.keys := by
  induction built with
  | new content category scope => simp [Payload.new]
  | withExpiry built inRange ih => exact ih
  | merge built m ih =>
    rw [mem_keys_mergeMetadata, ih]
    simp [free, or_comm]

/-- A payload comes back from its document exactly if its metadata never named a session; what does
come back differs in nothing else. -/
theorem ofDocument_toDocument_iff (merged : List Object) (p : Payload) (built : Built merged p) :
    (ofDocument p.toDocument = .ok p ↔ ∀ m ∈ merged, sessionAlias ∉ m.keys) ∧
      ∀ q, ofDocument p.toDocument = .ok q →
        q = { p with
          scope := { p.scope with session := q.scope.session }
          metadata := p.metadata.filter (·.1 != sessionAlias) } := by
  have named := built.mem_keys (by decide : sessionAlias ∉ reservedKeys)
  simp only [built.storable.ofDocument_eq_ok]
  refine ⟨⟨fun read m member second => ?_, fun free => ?_⟩, fun q read => readBack_eq_ok read⟩
  · -- metadata that come back have no entry under the second name, but these have one
    have metadata := congrArg Payload.metadata (readBack_eq_ok read)
    have present : sessionAlias ∈ p.metadata.keys := named.mpr ⟨m, member, second⟩
    rw [metadata] at present
    obtain ⟨e, kept, key⟩ := List.mem_map.mp present
    simp [key] at kept
  · have missing : sessionAlias ∉ p.metadata.keys := by
      intro present
      obtain ⟨m, member, second⟩ := named.mp present
      exact free m member second
    exact readBack_of_not_mem missing

theorem tagged_comes_back :
    Built [[("tag", .bool true)]]
        (((new "t" .fact ⟨some "u", none, none⟩).withExpiry 7).mergeMetadata
          [("tag", .bool true)]) ∧
      ofDocument (((new "t" .fact ⟨some "u", none, none⟩).withExpiry 7).mergeMetadata
          [("tag", .bool true)]).toDocument =
        .ok (((new "t" .fact ⟨some "u", none, none⟩).withExpiry 7).mergeMetadata
          [("tag", .bool true)]) := by
  have built : Built [[("tag", .bool true)]]
      (((new "t" .fact ⟨some "u", none, none⟩).withExpiry 7).mergeMetadata
        [("tag", .bool true)]) :=
    .merge (.withExpiry (.new "t" .fact ⟨some "u", none, none⟩) (by decide)) _
  exact ⟨built, (ofDocument_toDocument_iff _ _ built).1.mpr (by decide)⟩

/-- Metadata under the second name of the session come back as the session. -/
theorem alias_changes_scope :
    (new "t" .fact ⟨some "u", none, none⟩).mergeMetadata [("session_id", .string "s")] =
        ⟨"t", .fact, ⟨some "u", none, none⟩, none, [("session_id", .string "s")]⟩ ∧
      ofDocument ((new "t" .fact ⟨some "u", none, none⟩).mergeMetadata
          [("session_id", .string "s")]).toDocument =
        .ok ⟨"t", .fact, ⟨some "u", none, some "s"⟩, none, []⟩ :=
  ⟨rfl, rfl⟩

end Payload

end MemoryBank
