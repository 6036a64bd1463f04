import MemoryBank.Proofs.Memory.Updating

set_option autoImplicit false

/-!
What becomes of a document that is read as a payload and written again. Main statement: it is in
normal form, which is read as the same payload. Of the typed entries it has those that have a value,
each under its first name, and the other entries of the document are its metadata.
-/

namespace MemoryBank

theorem Scope.get?_entries (s : Scope) {owner : String × Option String} (member : owner ∈ s.owners) :
    s.entries.get? owner.1 = owner.2.map .string := by
  obtain ⟨user, agent, session⟩ := s
  simp only [owners, List.mem_cons, List.not_mem_nil, or_false] at member
  rcases member with rfl | rfl | rfl <;> cases user <;> cases agent <;> cases session <;> rfl

namespace Payload

variable {d : Document} {p : Payload}

theorem typed_eq (key : String) : typed key = (sessionAlias :: reservedKeys).contains key := by
  rw [Bool.eq_iff_iff, List.contains_iff_mem, List.mem_cons]
  constructor
  · intro known
    by_cases second : key = sessionAlias
    · exact .inl second
    · exact .inr (mem_reservedKeys_of_typed known second)
  · rintro (rfl | reserved)
    · rfl
    · exact (by decide : ∀ key ∈ reservedKeys, typed key = true) key reserved

theorem get?_expiryEntries (p : Payload) :
    p.expiryEntries.get? expiryKey = p.expiresAt.map .ofInt := by
  unfold expiryEntries
  cases p.expiresAt <;> rfl

theorem Reads.storable (reads : Reads d p) (distinct : d.keys.Nodup) : p.Storable where
  inRange time expires := by
    rcases Decode.optional_int64_eq_ok reads.expiresAt with ⟨-, never⟩ | ⟨due, -, value, inRange⟩
    · cases never.symm.trans expires
    · obtain rfl := Option.some.inj (value.symm.trans expires)
      exact inRange
  distinct := by
    rw [reads.metadata]
    exact Object.nodup_keys_filter distinct _
  free key member reserved := by
    have known : typed key = true := by simp [typed_eq, reserved]
    refine Object.get?_eq_none.mp ?_ member
    rw [reads.get?_metadata, if_pos known]

theorem Reads.not_mem_metadata (reads : Reads d p) : sessionAlias ∉ p.metadata.keys := by
  rw [← Object.get?_eq_none, reads.get?_metadata, if_pos (by decide)]

theorem Storable.get?_toDocument (storable : p.Storable) {key : String}
    (reserved : key ∈ reservedKeys) : p.toDocument.get? key = p.typedEntries.get? key := by
  rw [storable.toDocument_eq, Object.get?_append,
    Object.get?_eq_none.mpr fun member => storable.free key member reserved, Option.or_none]

theorem get?_typedEntries {key : String} (other : key ≠ "data") (another : key ≠ "category") :
    p.typedEntries.get? key = (p.scope.entries.get? key).or (p.expiryEntries.get? key) := by
  rw [typedEntries_eq, Object.get?_cons, if_neg other.symm, Object.get?_cons,
    if_neg another.symm, Object.get?_append]

/-- What is read of a document is read again of its own document. The metadata are the entries of
the first under no typed key, and the second document names the session under its first name only,
and of the entries that may be missing those that have a value. -/
theorem ofDocument_normal (distinct : d.keys.Nodup) (read : ofDocument d = .ok p) :
    ofDocument p.toDocument = .ok p ∧
      (p.metadata = d.filter fun e => !(sessionAlias :: reservedKeys).contains e.1) ∧
      p.toDocument.contains sessionAlias = false ∧
      (∀ owner ∈ p.scope.owners, p.toDocument.get? owner.1 = owner.2.map .string) ∧
      p.toDocument.get? expiryKey = p.expiresAt.map .ofInt := by
  have reads : Reads d p := by
    rw [← ofObject_eq_ok_iff]
    unfold ofDocument at read
    split at read
    · next q read' => rw [read', Except.ok.inj read]
    · cases read
  have storable := reads.storable distinct
  refine ⟨?_, ?_, ?_, fun owner member => ?_, ?_⟩
  · exact storable.ofDocument_eq_ok.mpr (readBack_of_not_mem reads.not_mem_metadata)
  · simp only [reads.metadata, typed_eq]
  -- the second name of a session stands under no typed entry, and metadata were read without it
  · have untyped : sessionAlias ∉ p.typedEntries.keys := fun member =>
      absurd (typedEntries_reserved member) (by decide)
    rw [Object.contains, storable.toDocument_eq, Object.get?_append,
      Object.get?_eq_none.mpr untyped, Object.get?_eq_none.mpr reads.not_mem_metadata]
    rfl
  · have named : owner.1 ∈ Scope.keys := List.mem_map_of_mem (f := Prod.fst) member
    have apart : ∀ key ∈ Scope.keys, key ∈ reservedKeys ∧ key ≠ "data" ∧ key ≠ "category" ∧
        key ≠ expiryKey := by decide
    obtain ⟨reserved, other, another, undated⟩ := apart owner.1 named
    have dated : p.expiryEntries.get? owner.1 = none := by
      unfold expiryEntries
      cases p.expiresAt with
      | none => rfl
      | some time => exact if_neg undated.symm
    rw [storable.get?_toDocument reserved, get?_typedEntries other another,
      p.scope.get?_entries member, dated, Option.or_none]
  · have owned : expiryKey ∉ p.scope.entries.keys := fun member =>
      absurd ((Scope.keys_entries p.scope).subset member) (by decide)
    rw [storable.get?_toDocument (by decide), get?_typedEntries (by decide) (by decide),
      Object.get?_eq_none.mpr owned, Option.none_or, get?_expiryEntries]

/-- A document with a session under the second name, owners that are null and metadata around the
typed entries. -/
def looselyWritten : Document :=
  [("note", .null), ("session_id", .string "s"), ("expires_at", .ofInt 7), ("data", .string "t"),
    ("user_id", .null), ("score", .ofInt 18446744073709551615), ("category", .string "fact"),
    ("tags", .array [.object [("session_id", .ofInt 1)]])]

theorem looselyWritten_normal :
    looselyWritten.keys.Nodup ∧
      ∃ p, ofDocument looselyWritten = .ok p ∧ ofDocument p.toDocument = .ok p ∧
        p.scope = ⟨none, none, some "s"⟩ ∧ p.toDocument.keys =
          ["data", "category", "run_id", "expires_at", "note", "score", "tags"] := by
  have distinct : looselyWritten.keys.Nodup := by decide
  have read : ofDocument looselyWritten = .ok ⟨"t", .fact, ⟨none, none, some "s"⟩, some 7,
      [("note", .null), ("score", .ofInt 18446744073709551615),
        ("tags", .array [.object [("session_id", .ofInt 1)]])]⟩ := rfl
  exact ⟨distinct, _, read, (ofDocument_normal distinct read).1, rfl, by decide⟩

end Payload

end MemoryBank
