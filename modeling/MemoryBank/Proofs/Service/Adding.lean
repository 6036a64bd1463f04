import MemoryBank.Engine.Direct
import MemoryBank.Proofs.Memory.Codec
import MemoryBank.Proofs.Store.Adapter
import MemoryBank.Service.Basic

set_option autoImplicit false

/-!
What a request to add a memory leaves in the store. The category and the expiry travel as metadata;
metadata of the caller that look like an expiry, or like a session, are taken for one.
-/

namespace MemoryBank

theorem Json.int?_eq_some {v : Json} {time : Int} (h : v.int? = some time) :
    v = .ofInt time ∧ -Word.half64 ≤ time ∧ time < Word.half64 := by
  cases v with
  | number n =>
    cases n with
    | int n =>
      simp only [int?, Number.toInt?] at h
      split at h
      · next inRange =>
        obtain rfl := Option.some.inj h
        exact ⟨rfl, inRange⟩
      · cases h
    | float x => cases h
  | null | bool _ | string _ | array _ | object _ => cases h

theorem Category.ofText_name (c : Category) : ofText c.name = .ok c := by
  cases c <;> rfl

namespace Direct

def expiryOf (metadata : Object) : Result (Option Int) :=
  match metadata.get? Payload.expiryKey with
  | some v =>
      match v.int? with
      | some time => .ok (some time)
      | none => .error (.validation .expiryNotInteger)
  | none => .ok none

theorem expiryOf_eq_ok {metadata : Object} {expiresAt : Option Int}
    (read : expiryOf metadata = .ok expiresAt) :
    metadata.get? Payload.expiryKey = expiresAt.map Json.ofInt ∧
      ∀ time, expiresAt = some time → -Word.half64 ≤ time ∧ time < Word.half64 := by
  unfold expiryOf at read
  split at read
  · next v entry =>
    split at read
    · next time value =>
      obtain rfl := Except.ok.inj read
      obtain ⟨rfl, inRange⟩ := Json.int?_eq_some value
      exact ⟨entry, fun time' same => Option.some.inj same ▸ inRange⟩
    · cases read
  · next missing =>
    obtain rfl := Except.ok.inj read
    exact ⟨missing, fun time none => by cases none⟩

theorem splitMetadata_eq {metadata : Object} {c : Category}
    (named : metadata.get? "category" = some c.toJson) :
    splitMetadata metadata =
      (fun expiresAt => (c, expiresAt, (metadata.erase "category").erase Payload.expiryKey)) <$>
        expiryOf (metadata.erase "category") := by
  simp only [splitMetadata, named, Category.toJson, Category.ofText_name, expiryOf]
  cases (metadata.erase "category").get? Payload.expiryKey with
  | none => rfl
  | some v => cases value : v.int? <;> simp [value, pure, Except.pure]

theorem payload_eq_ok {text : String} {scope : Scope} {metadata : Object} {c : Category}
    {p : Payload} (distinct : metadata.keys.Nodup)
    (named : metadata.get? "category" = some c.toJson)
    (made : payload text scope metadata = .ok p) :
    p.content = text ∧ p.category = c ∧ p.scope = scope ∧ p.Storable ∧
      metadata.get? Payload.expiryKey = p.expiresAt.map Json.ofInt ∧
      ∀ key, key ∉ Payload.reservedKeys → p.metadata.get? key = metadata.get? key := by
  rw [payload, splitMetadata_eq named] at made
  obtain ⟨⟨category, expiresAt, extra⟩, split, made⟩ := Fallible.bind_eq_ok.mp made
  obtain ⟨expiresAt', read, pair⟩ := Fallible.map_eq_ok.mp split
  cases pair
  cases made
  obtain ⟨entry, inRange⟩ := expiryOf_eq_ok read
  -- but for its expiry the payload is built in the usual way
  have base := (Payload.Built.new text c scope).merge
    ((metadata.erase "category").erase Payload.expiryKey)
  refine ⟨rfl, rfl, rfl, ⟨inRange, base.storable.distinct, base.storable.free⟩, ?_, ?_⟩
  · rw [← entry, Object.get?_erase_of_ne distinct (by decide)]
  · intro key free
    have category : "category" ≠ key := fun same => free (same ▸ by decide)
    have expiry : Payload.expiryKey ≠ key := fun same => free (same ▸ by decide)
    have left := Object.nodup_keys_erase distinct "category"
    rw [← Object.get?_erase_of_ne distinct category, ← Object.get?_erase_of_ne left expiry]
    exact Payload.get?_mergeMetadata_new text c scope (Object.nodup_keys_erase left _) free

theorem splitMetadata_expiry {metadata extra : Object} {c : Category} {expiresAt : Option Int}
    (split : splitMetadata metadata = .ok (c, expiresAt, extra)) :
    expiryOf (metadata.erase "category") = .ok expiresAt := by
  simp only [splitMetadata, Fallible.ok_bind, Fallible.error_bind, pure, Except.pure] at split
  unfold expiryOf
  grind

theorem storable_payload {text : String} {scope : Scope} {metadata : Object} {p : Payload}
    (made : payload text scope metadata = .ok p) : p.Storable := by
  obtain ⟨⟨category, expiresAt, extra⟩, split, value⟩ := Fallible.bind_eq_ok.mp made
  have built := ((Payload.Built.new text category scope).merge extra).storable
  rw [← Except.ok.inj value]
  exact ⟨(expiryOf_eq_ok (splitMetadata_expiry split)).2, built.distinct, built.free⟩

theorem run_add_eq_ok {v : VectorStore} {embedder : Embedder} {input : MemoryInput} {scope : Scope}
    {metadata : Object} {answer : Option AddOutcome} {w w' : World Database}
    (text : input.isBlank = false)
    (added : Task.run (add v embedder input scope metadata) w = (.ok answer, w')) :
    ∃ p id vector, payload input.toText scope metadata = .ok p ∧
      answer = some ⟨some id, input.toText, .add⟩ ∧
      Database.Appended v.collection [Record.toDocument ⟨id, vector, p⟩] w.store w'.store := by
  rw [add, if_neg (by simpa [MemoryInput.isBlank] using text)] at added
  obtain ⟨_, w₁, owned, added⟩ := Task.run_bind_eq_ok added
  obtain ⟨-, rfl⟩ := Prod.mk.inj owned
  obtain ⟨p, w₂, read, added⟩ := Task.run_bind_eq_ok added
  obtain ⟨made, rfl⟩ := Prod.mk.inj read
  obtain ⟨vector, w₃, embedded, added⟩ := Task.run_bind_eq_ok added
  obtain ⟨-, rfl⟩ := Prod.mk.inj embedded
  obtain ⟨id, w₄, issued, added⟩ := Task.run_bind_eq_ok added
  obtain ⟨-, rfl⟩ := Prod.mk.inj issued
  obtain ⟨_, w₅, inserted, added⟩ := Task.run_bind_eq_ok added
  obtain ⟨answered, rfl⟩ := Prod.mk.inj added
  -- a new id is made before the insertion, which no document shows
  obtain ⟨ds, documents, appended, -⟩ := VectorStore.insert_appended inserted
  obtain rfl : ds = [Record.toDocument ⟨id, vector, p⟩] := VectorStore.documents_eq_ok documents
  have numbered : Database.Frame w.store { w.store with issued := w.store.issued + 1 } :=
    ⟨rfl, fun _ => rfl⟩
  exact ⟨p, id, vector, made, (Except.ok.inj answered).symm, appended.after numbered⟩

end Direct

namespace AddRequest

theorem validate_eq_ok {r : AddRequest} (valid : r.validate = .ok ()) :
    r.messages.isBlank = false ∧ ∀ lifetime, r.lifetime = some lifetime → 0 ≤ lifetime := by
  obtain ⟨_, -, valid⟩ := Fallible.bind_eq_ok.mp valid
  cases blank : r.messages.isBlank with
  | true =>
    rw [blank] at valid
    cases valid
  | false =>
    refine ⟨rfl, fun lifetime given => ?_⟩
    by_cases negative : lifetime < 0
    · simp [blank, given, negative] at valid
    · omega

theorem validate_eq_error {r : AddRequest} {cause : Failure} (invalid : r.validate = .error cause) :
    ∃ fault, cause = .validation fault := by
  unfold validate Scope.validate at invalid
  split at invalid
  · cases invalid
    exact ⟨_, rfl⟩
  simp only [Fallible.ok_bind] at invalid
  split at invalid
  · cases invalid
    exact ⟨_, rfl⟩
  split at invalid
  · cases invalid
    exact ⟨_, rfl⟩
  · cases invalid

end AddRequest

namespace Service

/-- The lifetime a request comes to. -/
def lifetime {n : Type → Type} (s : Service n) (r : AddRequest) : Int :=
  r.lifetime.getD s.defaultLifetime

theorem metadata_eq_ok {n : Type → Type} [Monad n] {s : Service n} {now : Int} {r : AddRequest}
    {metadata : Object} (distinct : (r.metadata.getD []).keys.Nodup)
    (made : s.metadata now r = .ok metadata) :
    metadata.keys.Nodup ∧ metadata.get? "category" = some r.category.toJson ∧
      metadata.get? Payload.expiryKey =
        (if 0 < s.lifetime r then some (.ofInt (now + s.lifetime r))
          else (r.metadata.getD []).get? Payload.expiryKey) ∧
      ∀ key, key ≠ "category" → key ≠ Payload.expiryKey →
        metadata.get? key = (r.metadata.getD []).get? key := by
  obtain ⟨stamp, expires, made⟩ := Fallible.bind_eq_ok.mp made
  have named := Object.nodup_keys_insert distinct "category" r.category.toJson
  rw [show r.lifetime.getD s.defaultLifetime = s.lifetime r from rfl] at expires
  unfold expiry at expires
  by_cases lives : s.lifetime r ≤ 0
  · rw [if_pos lives] at expires
    cases expires
    cases made
    rw [if_neg (by omega)]
    refine ⟨named, Object.get?_insert_self .., Object.get?_insert_of_ne _ _ (by decide), ?_⟩
    exact fun key category _ => Object.get?_insert_of_ne _ _ (Ne.symm category)
  · rw [if_neg lives] at expires
    split at expires
    · cases expires
      cases made
      rw [if_pos (by omega)]
      refine ⟨Object.nodup_keys_insert named .., ?_, Object.get?_insert_self .., ?_⟩
      · rw [Object.get?_insert_of_ne _ _ (by decide), Object.get?_insert_self]
      · intro key category expiry
        rw [Object.get?_insert_of_ne _ _ (Ne.symm expiry),
          Object.get?_insert_of_ne _ _ (Ne.symm category)]
    · cases expires

theorem metadata_of_overflow {n : Type → Type} [Monad n] {s : Service n} {now : Int}
    {r : AddRequest} (lives : 0 < s.lifetime r) (overflow : Word.half64 ≤ now + s.lifetime r) :
    s.metadata now r = .error (.validation .lifetimeTooLong) := by
  have refused : expiry now (r.lifetime.getD s.defaultLifetime) =
      .error (.validation .lifetimeTooLong) := by
    rw [show r.lifetime.getD s.defaultLifetime = s.lifetime r from rfl, expiry,
      if_neg (by omega), if_neg (by omega)]
  simp only [metadata, refused, Fallible.error_bind]

theorem run_add_of_invalid {v : VectorStore} {embedder : Embedder} {default : Int}
    {coordinator : Coordinator} {now : Int} {r : AddRequest} {cause : Failure} {w : World Database}
    (refused : r.validate = .error cause ∨ (r.validate = .ok () ∧
      metadata (n := Program) ⟨Direct.engine v embedder, default, coordinator⟩ now r =
        .error cause)) :
    Task.run (add ⟨Direct.engine v embedder, default, coordinator⟩ now r) w =
      (.error cause, w) := by
  have lifted {α : Type} (x : Result α) :
      Task.run (add.liftExcept x : Task α) w = (x, w) := rfl
  rw [add, Task.run_bind, lifted]
  rcases refused with invalid | ⟨valid, unstamped⟩
  · rw [invalid]
  · rw [valid]
    simp only
    rw [Task.run_bind, lifted, unstamped]

theorem run_add_eq_ok {v : VectorStore} {embedder : Embedder} {default : Int}
    {coordinator : Coordinator} {now : Int} {r : AddRequest} {outcome : AddOutcome}
    {w w' : World Database}
    (added : Task.run (add ⟨Direct.engine v embedder, default, coordinator⟩ now r) w =
      (.ok outcome, w')) :
    ∃ metadata p id vector,
      Service.metadata (n := Program) ⟨Direct.engine v embedder, default, coordinator⟩ now r =
        .ok metadata ∧
      Direct.payload r.messages.toText r.scope metadata = .ok p ∧
      outcome = ⟨some id, r.messages.toText, .add⟩ ∧
      Database.Appended v.collection [Record.toDocument ⟨id, vector, p⟩] w.store w'.store := by
  obtain ⟨_, w₁, checked, added⟩ := Task.run_bind_eq_ok added
  obtain ⟨valid, rfl⟩ := Prod.mk.inj checked
  obtain ⟨metadata, w₂, extended, added⟩ := Task.run_bind_eq_ok added
  obtain ⟨stamped, rfl⟩ := Prod.mk.inj extended
  obtain ⟨answer, w₃, stored, added⟩ := Task.run_bind_eq_ok added
  obtain ⟨answered, rfl⟩ := Prod.mk.inj added
  obtain ⟨p, id, vector, made, rfl, appended⟩ :=
    Direct.run_add_eq_ok (AddRequest.validate_eq_ok valid).1 stored
  exact ⟨metadata, p, id, vector, stamped, made, (Except.ok.inj answered).symm, appended⟩

/-- The payload says what the request asks for. -/
structure Honours {n : Type → Type} (s : Service n) (now : Int) (r : AddRequest) (p : Payload) :
    Prop where
  content : p.content = r.messages.toText
  category : p.category = r.category
  scope : p.scope = r.scope
  expiresAt : p.expiresAt =
    if 0 < s.lifetime r then some (now + s.lifetime r) else none

theorem honours_iff {n : Type → Type} [Monad n] {s : Service n} {now : Int} {r : AddRequest}
    {metadata : Object} {p : Payload} (distinct : (r.metadata.getD []).keys.Nodup)
    (stamped : s.metadata now r = .ok metadata)
    (made : Direct.payload r.messages.toText r.scope metadata = .ok p) :
    (∃ q, Payload.ofDocument p.toDocument = .ok q ∧ s.Honours now r q) ↔
      (Object.get? (r.metadata.getD []) sessionAlias = none ∨
          Object.get? (r.metadata.getD []) sessionAlias = some .null ∧ r.scope.session = none) ∧
        (0 < s.lifetime r ∨ Object.get? (r.metadata.getD []) Payload.expiryKey = none) := by
  obtain ⟨distinct', named, entry, others⟩ := metadata_eq_ok distinct stamped
  obtain ⟨content, category, scope, storable, expiry, free⟩ :=
    Direct.payload_eq_ok distinct' named made
  have second : p.metadata.get? sessionAlias =
      Object.get? (r.metadata.getD []) sessionAlias := by
    rw [free _ (by decide), others _ (by decide) (by decide)]
  -- the expiry is the stamp, or what the caller's metadata had in its place
  have onTime : p.expiresAt = (if 0 < s.lifetime r then some (now + s.lifetime r) else none) ↔
      0 < s.lifetime r ∨ Object.get? (r.metadata.getD []) Payload.expiryKey = none := by
    rw [expiry] at entry
    by_cases lives : 0 < s.lifetime r
    · rw [if_pos lives] at entry ⊢
      obtain ⟨time, expires, value⟩ := Option.map_eq_some_iff.mp entry
      have same : time = now + s.lifetime r := by simpa [Json.ofInt] using value
      simp [lives, expires, same]
    · rw [if_neg lives] at entry ⊢
      rw [← entry]
      simp [lives]
  simp only [← onTime, ← second, ← scope, ← Scope.readSession_keeps, storable.ofDocument_eq_ok]
  constructor
  · rintro ⟨q, read, honoured⟩
    obtain ⟨⟨session, rest⟩, kept, value⟩ := Fallible.bind_eq_ok.mp read
    obtain rfl := Except.ok.inj value
    have same : session = p.scope.session := by
      rw [scope]
      exact congrArg Scope.session honoured.scope
    exact ⟨⟨rest, same ▸ kept⟩, honoured.expiresAt⟩
  · rintro ⟨⟨rest, kept⟩, expiresAt⟩
    refine ⟨{ p with metadata := rest }, ?_, content, category, scope, expiresAt⟩
    rw [Payload.readBack, kept]
    rfl

/-- A memory added is one new document under the id of the answer, which honours the request exactly
if none of the caller's metadata were read for a session or an expiry; a time of expiry out of range
is refused, and nothing changes. -/
theorem add_spec (v : VectorStore) (embedder : Embedder) (default : Int) (coordinator : Coordinator)
    (now : Int) (inRange : -Word.half64 ≤ now ∧ now < Word.half64) (r : AddRequest)
    (distinct : (r.metadata.getD []).keys.Nodup) (w : World Database) :
    let s : Service Program := ⟨Direct.engine v embedder, default, coordinator⟩
    (∀ outcome w', Task.run (s.add now r) w = (.ok outcome, w') →
      ∃ id d, outcome = ⟨some id, r.messages.toText, .add⟩ ∧ Document.id? d = some id ∧
        Database.Appended v.collection [d] w.store w'.store ∧
        ((∃ m, StoredMemory.ofDocument none d = .ok m ∧ s.Honours now r m.payload) ↔
          (Object.get? (r.metadata.getD []) sessionAlias = none ∨
              Object.get? (r.metadata.getD []) sessionAlias = some .null ∧
                r.scope.session = none) ∧
            (0 < s.lifetime r ∨
              Object.get? (r.metadata.getD []) Payload.expiryKey = none))) ∧
      ((now + s.lifetime r < -Word.half64 ∨ Word.half64 ≤ now + s.lifetime r) →
        0 < s.lifetime r ∨ r.lifetime ≠ none →
        ∃ cause, Task.run (s.add now r) w = (.error (.validation cause), w)) := by
  intro s
  constructor
  · intro outcome w' added
    obtain ⟨metadata, p, id, vector, stamped, made, answered, appended⟩ := run_add_eq_ok added
    refine ⟨id, _, answered, rfl, appended, ?_⟩
    rw [← honours_iff distinct stamped made, VectorStore.ofDocument_toDocument]
    constructor
    · rintro ⟨m, read, honoured⟩
      obtain ⟨q, decoded, rfl⟩ := Fallible.map_eq_ok.mp read
      exact ⟨q, decoded, honoured⟩
    · rintro ⟨q, decoded, honoured⟩
      exact ⟨⟨id, none, q⟩, Fallible.map_eq_ok.mpr ⟨q, decoded, rfl⟩, honoured⟩
  · intro overflow asked
    cases checked : r.validate with
    | error cause =>
      obtain ⟨fault, rfl⟩ := AddRequest.validate_eq_error checked
      exact ⟨fault, run_add_of_invalid (.inl checked)⟩
    | ok _ =>
      -- a lifetime of the request's own is not negative here, and 0 cannot lead out of range
      have lives : 0 < s.lifetime r := by
        rcases asked with lives | asked
        · exact lives
        · obtain ⟨own, given⟩ := Option.ne_none_iff_exists'.mp asked
          have positive := (AddRequest.validate_eq_ok checked).2 own given
          have same : s.lifetime r = own := by rw [lifetime, given]; rfl
          omega
      have beyond : Word.half64 ≤ now + s.lifetime r := by omega
      exact ⟨.lifetimeTooLong,
        run_add_of_invalid (.inr ⟨checked, metadata_of_overflow lives beyond⟩)⟩

theorem add_honours :
    ∃ w' id d m,
      Task.run (add ⟨Direct.engine ⟨⟨"memories", 1, .diskann, 0, 50⟩⟩ (.ofLetters 1), 0,
          ⟨50, none⟩⟩ 100
          ⟨⟨some "u", none, none⟩, .text "t", .fact, some [("tag", .null)], some 60⟩)
        (⟨.empty, .empty⟩ : World Database) = (.ok ⟨some id, "t", .add⟩, w') ∧
      w'.store.documents "memories" = [d] ∧ StoredMemory.ofDocument none d = .ok m ∧
      m.payload.expiresAt = some 160 := by
  have passed : ∃ outcome w',
      Task.run (add ⟨Direct.engine ⟨⟨"memories", 1, .diskann, 0, 50⟩⟩ (.ofLetters 1), 0,
          ⟨50, none⟩⟩ 100
          ⟨⟨some "u", none, none⟩, .text "t", .fact, some [("tag", .null)], some 60⟩)
        (⟨.empty, .empty⟩ : World Database) = (.ok outcome, w') :=
    Task.run_ok_of_isSome (by decide +kernel)
  obtain ⟨outcome, w', added⟩ := passed
  obtain ⟨id, d, rfl, -, appended, exact⟩ :=
    (add_spec ⟨⟨"memories", 1, .diskann, 0, 50⟩⟩ (.ofLetters 1) 0 ⟨50, none⟩ 100 (by decide)
      ⟨⟨some "u", none, none⟩, .text "t", .fact, some [("tag", .null)], some 60⟩ (by decide)
      ⟨.empty, .empty⟩).1 outcome w' added
  obtain ⟨m, read, honoured⟩ := exact.mpr ⟨.inl rfl, .inl (by decide)⟩
  exact ⟨w', id, d, m, added, appended.grown, read, honoured.expiresAt⟩

/-- A memory that is to live for ever gets the expiry that stands among its metadata. -/
theorem add_takes_foreign_expiry :
    (Task.run (add ⟨Direct.engine ⟨⟨"memories", 1, .diskann, 0, 50⟩⟩ (.ofLetters 1), 0,
          ⟨50, none⟩⟩ 100
          ⟨⟨some "u", none, none⟩, .text "t", .fact, some [("expires_at", .ofInt 5)], some 0⟩)
        (⟨.empty, .empty⟩ : World Database)).1.toOption =
      some ⟨some "01900000-0000-7000-8000-000000000001", "t", .add⟩ ∧
    ((Task.run (add ⟨Direct.engine ⟨⟨"memories", 1, .diskann, 0, 50⟩⟩ (.ofLetters 1), 0,
          ⟨50, none⟩⟩ 100
          ⟨⟨some "u", none, none⟩, .text "t", .fact, some [("expires_at", .ofInt 5)], some 0⟩)
        (⟨.empty, .empty⟩ : World Database)).2.store.documents "memories").map
      (fun d => (StoredMemory.ofDocument none d).toOption.map (·.payload.expiresAt)) =
        [some (some 5)] := by
  decide +kernel

end Service

end MemoryBank
