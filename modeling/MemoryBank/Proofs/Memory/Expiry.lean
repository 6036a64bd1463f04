import MemoryBank.Memory.Item
import MemoryBank.Proofs.Decode.Fields

set_option autoImplicit false

/-!
The expiry of a memory as it is read: in its document, in its payload, and in the item that is made
of it.
-/

namespace MemoryBank

namespace Decode

theorem optional_int64_eq_ok {v : Json} {time? : Option Int}
    (read : optional int64 v = .ok time?) :
    (v = .null ∧ time? = none) ∨
      ∃ time, v = .ofInt time ∧ time? = some time ∧ -Word.half64 ≤ time ∧ time < Word.half64 := by
  cases v with
  | null => exact .inl ⟨rfl, (Except.ok.inj read).symm⟩
  | number n =>
    obtain ⟨time, value, rfl⟩ := Fallible.map_eq_ok.mp (show some <$> int64 _ = _ from read)
    cases n with
    | int n =>
      simp only [int64, integer] at value
      split at value
      · next inRange =>
        obtain rfl := Except.ok.inj value
        exact .inr ⟨n, rfl, rfl, inRange⟩
      · cases value
    | float x => cases value
  | bool _ | string _ | array _ | object _ => cases read

end Decode

namespace Payload

theorem ofObject_eq_ok {o : Object} {p : Payload} (read : ofObject o = .ok p) :
    ∃ known others, Fields.sortOut fields [] o = .ok (known, others) ∧
      Scope.among others = .ok (p.scope, p.metadata) ∧
      Fields.get known "data" Decode.text = .ok p.content ∧
      Fields.get known "category" Category.decode = .ok p.category ∧
      Fields.get? known expiryKey Decode.int64 = .ok p.expiresAt := by
  unfold ofObject Fields.ofObject at read
  obtain ⟨⟨known, others⟩, sorted, read⟩ := Fallible.bind_eq_ok.mp read
  obtain ⟨⟨known', others'⟩, sortedOut, sorted⟩ := Fallible.bind_eq_ok.mp sorted
  obtain ⟨_, -, pair⟩ := Fallible.bind_eq_ok.mp sorted
  cases pair
  obtain ⟨⟨scope, metadata⟩, among, read⟩ := Fallible.bind_eq_ok.mp read
  obtain ⟨content, data, read⟩ := Fallible.bind_eq_ok.mp read
  obtain ⟨category, kind, read⟩ := Fallible.bind_eq_ok.mp read
  obtain ⟨expiresAt, expiry, read⟩ := Fallible.bind_eq_ok.mp read
  cases read
  exact ⟨known, others, sortedOut, among, data, kind, expiry⟩

theorem answers_expiryKey (key : String) (f : Field)
    (answers : fields.find? (·.answersTo key) = some f) : f.name = expiryKey ↔ key = expiryKey := by
  have member := List.mem_of_find?_eq_some answers
  have named := List.find?_some answers
  simp only [fields, List.mem_cons, List.not_mem_nil, or_false] at member
  rcases member with rfl | rfl | rfl <;>
    simp [Field.answersTo, Field.required, Field.optional] at named ⊢ <;> rw [named]

theorem metadata_among {others metadata : Object} {scope : Scope}
    (read : Scope.among others = .ok (scope, metadata)) :
    ∀ key ∈ metadata.keys, key ∈ others.keys := by
  unfold Scope.among Fields.ofObject at read
  obtain ⟨⟨known, rest⟩, sorted, read⟩ := Fallible.bind_eq_ok.mp read
  obtain ⟨⟨known', rest'⟩, sortedOut, sorted⟩ := Fallible.bind_eq_ok.mp sorted
  obtain ⟨_, -, pair⟩ := Fallible.bind_eq_ok.mp sorted
  cases pair
  obtain ⟨_, -, pair⟩ := Fallible.bind_eq_ok.mp read
  cases pair
  exact fun key member => (Fields.sortOut_others sortedOut key member).1

theorem ofObject_expiry {o : Object} {p : Payload} (read : ofObject o = .ok p) :
    Decode.optional Decode.int64 ((o.get? expiryKey).getD .null) = .ok p.expiresAt ∧
      expiryKey ∉ p.metadata.keys := by
  obtain ⟨known, others, sorted, among, -, -, expiry⟩ := ofObject_eq_ok read
  constructor
  · rw [← Fields.get?_sortOut answers_expiryKey (by decide) sorted]
    exact expiry
  · intro member
    have unknown := (Fields.sortOut_others sorted _ (metadata_among among _ member)).2
    exact absurd unknown (by decide)

end Payload

namespace MemoryItem

theorem expiresAt_ofStored {o : Object} {m : StoredMemory}
    (read : Payload.ofObject o = .ok m.payload) :
    (ofStored m).expiresAt = m.payload.expiresAt := by
  obtain ⟨value, missing⟩ := Payload.ofObject_expiry read
  -- without an expiry the item shows what the metadata have under its key, and they have nothing
  rcases Decode.optional_int64_eq_ok value with ⟨-, none⟩ | ⟨time, -, some, inRange⟩
  · have absent : (ofStored m).metadata.get? Payload.expiryKey = Option.none := by
      simp only [ofStored, none]
      rw [Object.get?_insert_of_ne _ _ (by decide), Object.get?_eq_none.mpr missing]
    rw [expiresAt, absent, none]
    rfl
  · have present : (ofStored m).metadata.get? Payload.expiryKey = Option.some (.ofInt time) := by
      simp [ofStored, some]
    rw [expiresAt, present, some]
    exact if_pos inRange

theorem isExpired_ofStored {o : Object} {m : StoredMemory}
    (read : Payload.ofObject o = .ok m.payload) (now : Int) :
    (ofStored m).isExpired now = m.payload.isExpired now := by
  have same := expiresAt_ofStored read
  cases expires : m.payload.expiresAt <;> simp [isExpired, Payload.isExpired, same, expires]

end MemoryItem

end MemoryBank
