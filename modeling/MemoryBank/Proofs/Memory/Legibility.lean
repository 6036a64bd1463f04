import MemoryBank.Proofs.Memory.Codec
import MemoryBank.Proofs.Memory.Updating

set_option autoImplicit false

/-!
Payloads that nothing but their session can keep from being read. What is stored at first is of this
kind, and so is what changes through the adapter make of it.
-/

namespace MemoryBank.Payload

/-- The object is read as this payload, if it has no session under the second name. -/
structure Legible (o : Object) (p : Payload) : Prop where
  once : ∀ key, typed key = true → o.keys.count key ≤ 1
  content : Fields.get o "data" Decode.text = .ok p.content
  category : Fields.get o "category" Category.decode = .ok p.category
  expiresAt : Fields.get? o expiryKey Decode.int64 = .ok p.expiresAt
  user : Fields.get? o "user_id" Decode.text = .ok p.scope.user
  agent : Fields.get? o "agent_id" Decode.text = .ok p.scope.agent
  session : Fields.get? o "run_id" Decode.text = .ok p.scope.session

/-- The object has a session under the second name, and beside the first or not as a text. -/
def Garbled (o : Object) : Prop :=
  ∃ v, o.get? sessionAlias = some v ∧
    ("run_id" ∈ o.keys ∨ ∀ session, Decode.optional Decode.text v ≠ .ok session)

variable {o o' : Object} {p : Payload}

theorem Legible.exists_reads_iff (legible : Legible o p) : (∃ q, Reads o q) ↔ ¬Garbled o := by
  constructor
  · rintro ⟨q, reads⟩ ⟨v, second, first | unread⟩
    · exact reads.scope.oneSession.elim (· first)
        (· (Object.mem_keys (Object.mem_of_get? second)))
    · have missing : o.get? "run_id" = none := by
        refine Object.get?_eq_none.mpr (reads.scope.oneSession.resolve_right fun new => new ?_)
        exact Object.mem_keys (Object.mem_of_get? second)
      have session := reads.scope.session
      rw [Scope.sessionEntry, missing, Option.none_or, second] at session
      exact unread _ session
  · intro clear
    obtain ⟨session, oneSession, read⟩ : ∃ session, ("run_id" ∉ o.keys ∨ sessionAlias ∉ o.keys) ∧
        Decode.optional Decode.text ((Scope.sessionEntry o).getD .null) = .ok session := by
      rw [Scope.sessionEntry]
      cases second : o.get? sessionAlias with
      | none =>
        rw [Option.or_none]
        exact ⟨_, .inr (Object.get?_eq_none.mp second), legible.session⟩
      | some v =>
        obtain ⟨first, session, read⟩ : "run_id" ∉ o.keys ∧
            ∃ session, Decode.optional Decode.text v = .ok session := by
          simpa [Garbled, second] using clear
        rw [Object.get?_eq_none.mpr first]
        exact ⟨session, .inl first, read⟩
    exact ⟨⟨p.content, p.category, { p.scope with session }, p.expiresAt, o.filter (!typed ·.1)⟩, {
      once key known := legible.once key (by simp [typed, known])
      content := legible.content
      category := legible.category
      expiresAt := legible.expiresAt
      scope := ⟨fun key known => legible.once key (by simp [typed, known]), oneSession,
        legible.user, legible.agent, read⟩
      metadata := rfl }⟩

section

variable {changes : List Change} (written : Update.Written (Change.latest changes) o o')
  (free : ∀ key ∈ reservedKeys, key ∉ (Change.merged changes).keys)
include written free

theorem Legible.after_written (legible : Legible o p) :
    Legible o' { p with content := Change.contentAfter changes p.content } := by
  have same {key : String} (reserved : key ∈ reservedKeys) (other : key ≠ "data") :
      o'.get? key = o.get? key := get?_reserved written free reserved other
  exact {
    once := fun key known => by
      have before := legible.once key known
      have bound := written.once key
      omega
    content := content_written written legible.content
    category := (Fields.get_of_same (same (by decide) (by decide)) _).trans legible.category
    expiresAt := (Fields.get?_of_same (same (by decide) (by decide)) _).trans legible.expiresAt
    user := (Fields.get?_of_same (same (by decide) (by decide)) _).trans legible.user
    agent := (Fields.get?_of_same (same (by decide) (by decide)) _).trans legible.agent
    session := (Fields.get?_of_same (same (by decide) (by decide)) _).trans legible.session }

theorem garbled_written (unnamed : sessionAlias ∉ (Change.merged changes).keys) :
    Garbled o' ↔ Garbled o := by
  have first : o'.get? "run_id" = o.get? "run_id" :=
    get?_reserved written free (by decide) (by decide)
  have second : o'.get? sessionAlias = o.get? sessionAlias := by
    rw [get?_written written (by decide), Object.get?_eq_none.mpr unnamed, Option.none_or]
  have named : "run_id" ∈ o'.keys ↔ "run_id" ∈ o.keys := by
    rw [← not_iff_not, ← Object.get?_eq_none, ← Object.get?_eq_none, first]
  rw [Garbled, Garbled, second, named]

end

theorem Storable.legible (storable : p.Storable) : Legible p.toDocument p := by
  -- without its metadata the payload comes back as it is
  have plain : Storable { p with metadata := [] } := ⟨storable.inRange, .nil, nofun⟩
  have reads : Reads p.typedEntries { p with metadata := [] } := by
    refine ofObject_eq_ok_iff.mp ?_
    exact plain.ofObject_toDocument.trans (readBack_of_not_mem List.not_mem_nil)
  have missing : sessionAlias ∉ p.typedEntries.keys := fun member =>
    absurd (typedEntries_reserved member) (by decide)
  have same {key : String} (reserved : key ∈ reservedKeys) :
      p.toDocument.get? key = p.typedEntries.get? key := by
    rw [storable.toDocument_eq, Object.get?_append,
      Object.get?_eq_none.mpr fun member => storable.free key member reserved, Option.or_none]
  have session := reads.scope.session
  rw [Scope.sessionEntry, Object.get?_eq_none.mpr missing, Option.or_none] at session
  exact {
    once := fun key known => by
      rw [storable.toDocument_eq, Object.keys_append, List.count_append]
      by_cases second : key = sessionAlias
      · subst second
        rw [List.count_eq_zero_of_not_mem missing, Nat.zero_add]
        exact List.nodup_iff_count_le_one.mp storable.distinct _
      · have reserved := mem_reservedKeys_of_typed known second
        rw [List.count_eq_zero_of_not_mem fun member => storable.free key member reserved]
        rcases Bool.or_eq_true_iff.mp known with own | owner
        · exact reads.once key own
        · exact reads.scope.once key owner
    content := (Fields.get_of_same (same (by decide)) _).trans reads.content
    category := (Fields.get_of_same (same (by decide)) _).trans reads.category
    expiresAt := (Fields.get?_of_same (same (by decide)) _).trans reads.expiresAt
    user := (Fields.get?_of_same (same (by decide)) _).trans reads.scope.user
    agent := (Fields.get?_of_same (same (by decide)) _).trans reads.scope.agent
    session := (Fields.get?_of_same (same (by decide)) _).trans session }

end MemoryBank.Payload
