import MemoryBank.Proofs.Memory.Reading
import MemoryBank.Proofs.Store.Changes

set_option autoImplicit false

/-!
What is read of a memory after changes through the adapter. No accepted entry has the key of a typed
field, but one may have the second name of the session.
-/

namespace MemoryBank

namespace Payload

theorem get?_of_content {o : Object} {content : String}
    (read : Fields.get o "data" Decode.text = .ok content) :
    o.get? "data" = some (.string content) := by
  unfold Fields.get at read
  cases found : o.get? "data" with
  | none =>
    rw [found] at read
    cases read
  | some v =>
    rw [found] at read
    cases v with
    | string text =>
      obtain rfl : text = content := Except.ok.inj read
      rfl
    | null | bool _ | number _ | array _ | object _ => cases read

theorem Reads.get?_metadata {o : Object} {p : Payload} (h : Reads o p) (key : String) :
    p.metadata.get? key = if typed key = true then none else o.get? key := by
  rw [h.metadata]
  cases known : typed key with
  | true =>
    rw [if_pos rfl, Object.get?_eq_none, Object.keys_filter o fun key => !typed key]
    simp [known]
  | false =>
    simp only [Bool.false_eq_true, if_false]
    exact Object.get?_filter o (p := fun key => !typed key) (by simp [known])

theorem mem_reservedKeys_of_typed {key : String} (known : typed key = true)
    (other : key ≠ sessionAlias) : key ∈ reservedKeys := by
  have named : (key = "data" ∨ key = "category" ∨ key = expiryKey) ∨
      (key = "user_id" ∨ key = "agent_id" ∨ key = "run_id") ∨ key = sessionAlias := by
    simpa [typed, owns, Scope.owns, Scope.keys] using known
  rcases named with (rfl | rfl | rfl) | (rfl | rfl | rfl) | second
  case inr.inr => exact absurd second other
  all_goals decide

section

variable {changes : List Change} {o o' : Object} {p p' : Payload}
  (written : Update.Written (Change.latest changes) o o')
  (free : ∀ key ∈ reservedKeys, key ∉ (Change.merged changes).keys)
include written

theorem get?_written {key : String} (other : key ≠ "data") :
    o'.get? key = ((Change.merged changes).get? key).or (o.get? key) := by
  rw [written.get?, Change.get?_merged changes other]

theorem content_written (read : Fields.get o "data" Decode.text = .ok p.content) :
    Fields.get o' "data" Decode.text = .ok (Change.contentAfter changes p.content) := by
  rw [Fields.get, written.get?, get?_of_content read, Change.latest_data]
  rfl

include free

theorem get?_reserved {key : String} (reserved : key ∈ reservedKeys) (other : key ≠ "data") :
    o'.get? key = o.get? key := by
  rw [get?_written written other, Object.get?_eq_none.mpr (free key reserved), Option.none_or]

/-- What is read of a changed payload; only the session may be another. -/
theorem Reads.written_eq (before : Reads o p) (after : Reads o' p') :
    p'.content = Change.contentAfter changes p.content ∧ p'.category = p.category ∧
      p'.scope.user = p.scope.user ∧ p'.scope.agent = p.scope.agent ∧
      p'.expiresAt = p.expiresAt ∧ ∀ key, p'.metadata.get? key =
        if key = sessionAlias then none
        else ((Change.merged changes).get? key).or (p.metadata.get? key) := by
  have same {key : String} (reserved : key ∈ reservedKeys) (other : key ≠ "data") :
      o'.get? key = o.get? key := get?_reserved written free reserved other
  have content := (content_written written before.content).symm.trans after.content
  have category := (Fields.get_of_same (same (by decide) (by decide)) _).symm.trans after.category
  have user := (Fields.get?_of_same (same (by decide) (by decide)) _).symm.trans after.scope.user
  have agent := (Fields.get?_of_same (same (by decide) (by decide)) _).symm.trans after.scope.agent
  have expiresAt :=
    (Fields.get?_of_same (same (by decide) (by decide)) _).symm.trans after.expiresAt
  refine ⟨(Except.ok.inj content).symm, Except.ok.inj (category.symm.trans before.category),
    Except.ok.inj (user.symm.trans before.scope.user),
    Except.ok.inj (agent.symm.trans before.scope.agent),
    Except.ok.inj (expiresAt.symm.trans before.expiresAt), fun key => ?_⟩
  rw [after.get?_metadata, before.get?_metadata]
  by_cases second : key = sessionAlias
  · rw [if_pos second, if_pos (second ▸ rfl)]
  · rw [if_neg second]
    cases known : typed key with
    | true =>
      have reserved := mem_reservedKeys_of_typed known second
      rw [if_pos rfl, if_pos rfl, Object.get?_eq_none.mpr (free key reserved)]
      rfl
    | false =>
      have other : key ≠ "data" := by
        rintro rfl
        cases known
      simp only [Bool.false_eq_true, if_false]
      exact get?_written written other

/-- A changed payload can be read again once its session can. -/
theorem Reads.after_written (before : Reads o p)
    (oneSession : "run_id" ∉ o'.keys ∨ sessionAlias ∉ o'.keys) {session : Option String}
    (read : Decode.optional Decode.text ((Scope.sessionEntry o').getD .null) = .ok session) :
    Reads o' ⟨Change.contentAfter changes p.content, p.category, { p.scope with session },
      p.expiresAt, o'.filter (!typed ·.1)⟩ := by
  have same {key : String} (reserved : key ∈ reservedKeys) (other : key ≠ "data") :
      o'.get? key = o.get? key := get?_reserved written free reserved other
  have once (key : String) (atMost : o.keys.count key ≤ 1) : o'.keys.count key ≤ 1 := by
    have bound := written.once key
    omega
  have user := (Fields.get?_of_same (same (by decide) (by decide)) _).trans before.scope.user
  have agent := (Fields.get?_of_same (same (by decide) (by decide)) _).trans before.scope.agent
  exact {
    once := fun key known => once key (before.once key known)
    content := content_written written before.content
    category := (Fields.get_of_same (same (by decide) (by decide)) _).trans before.category
    expiresAt := (Fields.get?_of_same (same (by decide) (by decide)) _).trans before.expiresAt
    scope := ⟨fun key known => once key (before.scope.once key known), oneSession, user, agent,
      read⟩
    metadata := rfl }

theorem exists_reads_written_iff (before : Reads o p) :
    (∃ p', Reads o' p' ∧ p'.scope.session = p.scope.session) ↔
      sessionAlias ∉ (Change.merged changes).keys ∨
        "run_id" ∉ o.keys ∧ ∃ session, (Change.merged changes).get? sessionAlias = some session ∧
          Decode.optional Decode.text session = .ok p.scope.session := by
  have same {key : String} (reserved : key ∈ reservedKeys) (other : key ≠ "data") :
      o'.get? key = o.get? key := get?_reserved written free reserved other
  have first : o'.get? "run_id" = o.get? "run_id" := same (by decide) (by decide)
  have second : o'.get? sessionAlias =
      ((Change.merged changes).get? sessionAlias).or (o.get? sessionAlias) :=
    get?_written written (by decide)
  constructor
  · rintro ⟨p', after, kept⟩
    cases named : (Change.merged changes).get? sessionAlias with
    | none => exact .inl (Object.get?_eq_none.mp named)
    | some session =>
      rw [named, Option.some_or] at second
      have present : sessionAlias ∈ o'.keys := Object.mem_keys (Object.mem_of_get? second)
      have missing : o'.get? "run_id" = none :=
        Object.get?_eq_none.mpr (after.scope.oneSession.resolve_right fun new => new present)
      refine .inr ⟨Object.get?_eq_none.mp (first.symm.trans missing), session, rfl, ?_⟩
      have read := after.scope.session
      rw [Scope.sessionEntry, missing, Option.none_or, second, Option.getD_some] at read
      rw [read, kept]
  · intro harmless
    have session : ("run_id" ∉ o'.keys ∨ sessionAlias ∉ o'.keys) ∧
        Decode.optional Decode.text ((Scope.sessionEntry o').getD .null) =
          .ok p.scope.session := by
      rw [Scope.sessionEntry, ← Object.get?_eq_none, ← Object.get?_eq_none, first, second]
      rcases harmless with unnamed | ⟨missing, session, named, read⟩
      · rw [Object.get?_eq_none.mpr unnamed, Option.none_or, Object.get?_eq_none,
          Object.get?_eq_none]
        exact ⟨before.scope.oneSession, before.scope.session⟩
      · rw [Object.get?_eq_none.mpr missing, named]
        exact ⟨.inl rfl, read⟩
    exact ⟨_, before.after_written written free session.1 session.2, rfl⟩

end

end Payload

/-- One memory is another but for its content and the metadata that the changes name. -/
structure StoredMemory.KeptBut (changes : List Change) (m m' : StoredMemory) : Prop where
  id : m'.id = m.id
  scope : m'.payload.scope = m.payload.scope
  category : m'.payload.category = m.payload.category
  expiresAt : m'.payload.expiresAt = m.payload.expiresAt
  metadata : ∀ key, key ∉ (Change.merged changes).keys →
    m'.payload.metadata.get? key = m.payload.metadata.get? key

namespace VectorStore

theorem Finds.run_get_iff {v : VectorStore} {id : String} {w : World Database} {d : Document}
    {o : Object} (h : Finds v id w d o) {m : StoredMemory} :
    (∃ w', Task.run (v.get id) w = (.ok m, w')) ↔
      Payload.Reads o m.payload ∧ d.id? = some m.id ∧ m.score = none := by
  constructor
  · rintro ⟨w', read⟩
    obtain ⟨-, -, e, found, decoded⟩ := run_get_eq_ok_iff.mp read
    obtain rfl : d = e := Option.some.inj (h.found.symm.trans found)
    obtain ⟨o', lies, value, named, unscored⟩ := StoredMemory.ofDocument_eq_ok_iff.mp decoded
    obtain rfl : o = o' := by simpa using h.payload.symm.trans lies
    exact ⟨Payload.ofObject_eq_ok_iff.mp value, named, unscored⟩
  · rintro ⟨reads, named, unscored⟩
    have decoded := StoredMemory.ofDocument_eq_ok_iff.mpr
      ⟨o, h.payload, Payload.ofObject_eq_ok_iff.mpr reads, named, unscored⟩
    exact ⟨_, run_get_eq_ok_iff.mpr ⟨h.online, rfl, d, h.found, decoded⟩⟩

/-- Accepted changes leave a memory readable, with its owners, exactly if they do not name the
second name of the session, or name it for the session there is. Whatever can still be read has kept
everything but the session. -/
theorem update_keeps_iff (v : VectorStore) (id : String) (changes : List Change)
    (w w₁ w₂ : World Database) (m : StoredMemory) (read : Task.run (v.get id) w = (.ok m, w₁))
    (updated : Task.run (changes.forM (v.update id)) w₁ = (.ok (), w₂)) :
    ∃ d ∈ w.store.documents v.collection, ∃ payload : Object,
      d.get? payloadKey = some (.object payload) ∧ Payload.ofObject payload = .ok m.payload ∧
      ((∃ m' w₃, Task.run (v.get id) w₂ = (.ok m', w₃) ∧ m.KeptBut changes m') ↔
        sessionAlias ∉ (Change.merged changes).keys ∨
          "run_id" ∉ payload.keys ∧ ∃ session,
            (Change.merged changes).get? sessionAlias = some session ∧
            Decode.optional Decode.text session = .ok m.payload.scope.session) ∧
      ∀ m' w₃, Task.run (v.get id) w₂ = (.ok m', w₃) →
        m'.id = m.id ∧ m'.payload.content = Change.contentAfter changes m.payload.content ∧
        m'.payload.category = m.payload.category ∧
        m'.payload.scope.user = m.payload.scope.user ∧
        m'.payload.scope.agent = m.payload.scope.agent ∧
        m'.payload.expiresAt = m.payload.expiresAt ∧
        ∀ key, m'.payload.metadata.get? key =
          if key = sessionAlias then none
          else ((Change.merged changes).get? key).or (m.payload.metadata.get? key) := by
  obtain ⟨online, rfl, d, found, decoded⟩ := run_get_eq_ok_iff.mp read
  obtain ⟨o, lies, value, named, -⟩ := StoredMemory.ofDocument_eq_ok_iff.mp decoded
  have before := Payload.ofObject_eq_ok_iff.mp value
  have here : Finds v id
      { w with store := .arrive (.findOne v.collection (Document.withId id)) w.store } d o :=
    ⟨online, found, lies⟩
  obtain ⟨d', o', after, sameId, written, free⟩ := run_updates_eq_ok here updated
  have sameName : d'.id? = some m.id := by rw [← named, Document.id?, Document.id?, sameId]
  refine ⟨d, List.mem_of_find?_eq_some found, o, lies, value, ?_, ?_⟩
  · rw [← Payload.exists_reads_written_iff written free before]
    constructor
    · rintro ⟨m', w₃, again, kept⟩
      exact ⟨m'.payload, (after.run_get_iff.mp ⟨w₃, again⟩).1, congrArg Scope.session kept.scope⟩
    · rintro ⟨p', reads, session⟩
      obtain ⟨-, category, user, agent, expiresAt, metadata⟩ :=
        before.written_eq written free reads
      have again : ∃ w₃, Task.run (v.get id) w₂ = (.ok ⟨m.id, none, p'⟩, w₃) :=
        after.run_get_iff.mpr ⟨reads, sameName, rfl⟩
      obtain ⟨w₃, again⟩ := again
      refine ⟨_, w₃, again, rfl, ?_, category, expiresAt, fun key unnamed => ?_⟩
      · exact Scope.mk.injEq .. ▸ ⟨user, agent, session⟩
      · rw [metadata, Object.get?_eq_none.mpr unnamed, Option.none_or]
        split
        · next second => rw [before.get?_metadata, if_pos (second ▸ rfl)]
        · rfl
  · intro m' w₃ again
    obtain ⟨reads, named', -⟩ := after.run_get_iff.mp ⟨w₃, again⟩
    exact ⟨Option.some.inj (named'.symm.trans sameName), before.written_eq written free reads⟩

/-- One memory, inserted into an empty store. -/
def oneMemory : World Database :=
  (Task.run (VectorStore.insert ⟨⟨"memories", 1, .diskann, 0, 50⟩⟩ ["a"] [[.ofInt 1]]
    [.new "t" .fact ⟨some "u", none, none⟩]) ⟨.empty, .empty⟩).2

theorem tagged_update_kept :
    ∃ m m' w₁ w₂ w₃,
      Task.run (VectorStore.get ⟨⟨"memories", 1, .diskann, 0, 50⟩⟩ "a") oneMemory = (.ok m, w₁) ∧
      Task.run (List.forM [⟨some "t'", some [("tag", .ofInt 1)], none⟩]
        (VectorStore.update ⟨⟨"memories", 1, .diskann, 0, 50⟩⟩ "a")) w₁ = (.ok (), w₂) ∧
      Task.run (VectorStore.get ⟨⟨"memories", 1, .diskann, 0, 50⟩⟩ "a") w₂ = (.ok m', w₃) ∧
      m.KeptBut [⟨some "t'", some [("tag", .ofInt 1)], none⟩] m' := by
  have passed : ∃ m w₁, Task.run (VectorStore.get ⟨⟨"memories", 1, .diskann, 0, 50⟩⟩ "a")
      oneMemory = (.ok m, w₁) := Task.run_ok_of_isSome (by decide +kernel)
  obtain ⟨m, w₁, read⟩ := passed
  obtain ⟨-, rfl, -⟩ := run_get_eq_ok_iff.mp read
  have passed : ∃ done w₂, Task.run (List.forM [⟨some "t'", some [("tag", .ofInt 1)], none⟩]
      (VectorStore.update ⟨⟨"memories", 1, .diskann, 0, 50⟩⟩ "a"))
      { oneMemory with
        store := Database.arrive (.findOne "memories" (Document.withId "a")) oneMemory.store } =
      (.ok done, w₂) :=
    Task.run_ok_of_isSome (by decide +kernel)
  obtain ⟨_, w₂, updated⟩ := passed
  obtain ⟨d, -, payload, -, -, exact, -⟩ := update_keeps_iff _ _ _ _ _ _ _ read updated
  obtain ⟨m', w₃, again, kept⟩ := exact.mpr (.inl (by decide))
  exact ⟨m, m', _, w₂, w₃, read, updated, again, kept⟩

/-- Metadata under the second name of the session give the memory a session. -/
theorem update_changes_session :
    (Task.run (VectorStore.get ⟨⟨"memories", 1, .diskann, 0, 50⟩⟩ "a") oneMemory).1.toOption.map
        (·.payload.scope) = some ⟨some "u", none, none⟩ ∧
      (Task.run (VectorStore.update ⟨⟨"memories", 1, .diskann, 0, 50⟩⟩ "a"
        ⟨none, some [("session_id", .string "s")], none⟩) oneMemory).1.toOption = some () ∧
      (Task.run (VectorStore.get ⟨⟨"memories", 1, .diskann, 0, 50⟩⟩ "a")
        (Task.run (VectorStore.update ⟨⟨"memories", 1, .diskann, 0, 50⟩⟩ "a"
          ⟨none, some [("session_id", .string "s")], none⟩) oneMemory).2).1.toOption.map
        (·.payload.scope) = some ⟨some "u", none, some "s"⟩ := by
  decide +kernel

end VectorStore

end MemoryBank
