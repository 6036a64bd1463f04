import MemoryBank.Proofs.Memory.Expiry
import MemoryBank.Proofs.Number.Doubles
import MemoryBank.Proofs.Store.Adapter
import MemoryBank.Proofs.Store.Paths
import MemoryBank.Sweep

set_option autoImplicit false

/-!
Which memories a sweep removes. The store compares expiries as doubles, so it also removes a memory
whose expiry is later than the time of the sweep but has the same nearest double.
-/

namespace MemoryBank

namespace Query

theorem ordered_le_ofInt {a b : Int} (ha : a.natAbs < pow2 64) (hb : b.natAbs < pow2 64) :
    ordered Ordering.isLE (some (.ofInt a)) (.ofInt b) =
      decide (Binary64.nearest a ≤ Binary64.nearest b) := by
  simp only [ordered, compare?, Json.ofInt, Number.toFloat, Binary64.ofInt_lt ha hb,
    Binary64.ofInt_beq ha hb, Binary64.ofInt_lt hb ha, beq_iff_eq]
  split
  · simp; omega
  split
  · simp; omega
  split
  · simp; omega
  · simp; omega

end Query

namespace Sweep

/-- What the store makes of a document in a sweep. -/
def due (now : Int) (d : Document) : Bool :=
  Query.ordered Ordering.isLE (d.getPath? [payloadKey, Payload.expiryKey]) (.ofInt now)

theorem satisfies_expired (now : Int) (d : Document) :
    d.satisfies (expired now) = .ok (due now d) := by
  have path : Path.ofText (storedPayloadPath ++ Payload.expiryKey) =
      [payloadKey, Payload.expiryKey] := by decide
  have field : Query.isOperator (storedPayloadPath ++ Payload.expiryKey) = false := by decide
  have connective : storedPayloadPath ++ Payload.expiryKey ≠ "$and" ∧
      storedPayloadPath ++ Payload.expiryKey ≠ "$or" := by decide
  have operators : Query.operators? (.object [("$exists", .bool true), ("$lte", .ofInt now)]) =
      some [("$exists", .bool true), ("$lte", .ofInt now)] := by
    simp [Query.operators?, Query.isOperator]
  simp only [Document.satisfies, expired, Query.holds, Query.clauseHolds, connective.1,
    connective.2, or_self, if_false, Query.fieldHolds, field, Bool.false_eq_true, path,
    Query.conditionHolds, operators, Query.operatorsHold, Query.operatorHolds, due]
  cases d.getPath? [payloadKey, Payload.expiryKey] with
  | none => rfl
  | some v =>
    simp only [Json.bool?, Option.getD_some, Option.isSome_some]
    cases Query.ordered Ordering.isLE (some v) (.ofInt now) <;> rfl

/-- A sweep of a store that can be reached goes through: it counts and names what is due, and leaves
what is not. -/
theorem run_spec {w : World Database} (online : w.store.offline = false) (collection : String)
    (now : Int) :
    ∃ w', Task.run (run collection now) w =
        (.ok ⟨(w.store.documents collection).countP (due now),
          ((w.store.documents collection).filter (due now)).filterMap (·.id?)⟩, w') ∧
      w'.store.documents collection = (w.store.documents collection).filter (!due now ·) := by
  have judged : ∀ d ∈ w.store.documents collection, d.satisfies (expired now) = .ok (due now d) :=
    fun d _ => satisfies_expired now d
  have listed := Database.perform_find online judged
  -- the search before the deletion is only noted in the log
  have deleted := @Database.perform_deleteMany
    (Database.arrive (.find collection (expired now) none) w.store) online collection _ _ judged
  refine ⟨{ w with store := (DocumentStore.perform (.deleteMany collection (expired now))
    (Database.arrive (.find collection (expired now) none) w.store)).2 }, ?_, deleted.2⟩
  rw [run, Task.run_bind, Task.run_call, listed]
  simp only
  rw [Task.run_bind, Task.run_call, deleted.1]
  rfl

theorem due_of_payload {d : Document} {o : Object} (lies : d.get? payloadKey = some (.object o))
    {p : Payload} (read : Payload.ofObject o = .ok p) {now : Int}
    (inRange : -Word.half64 ≤ now ∧ now < Word.half64) :
    due now d = true ↔
      ∃ time, p.expiresAt = some time ∧ Binary64.nearest time ≤ Binary64.nearest now := by
  have path : d.getPath? [payloadKey, Payload.expiryKey] = o.get? Payload.expiryKey :=
    Object.getPath?_object (by simp) lies
  obtain ⟨value, -⟩ := Payload.ofObject_expiry read
  rw [due, path]
  -- null is there for the store, but it stands in no order to a number
  rcases Decode.optional_int64_eq_ok value with ⟨null, none⟩ | ⟨time, stored, some, range⟩
  · have unordered :
        Query.ordered Ordering.isLE (o.get? Payload.expiryKey) (.ofInt now) = false := by
      cases entry : o.get? Payload.expiryKey with
      | none => rfl
      | some v =>
        obtain rfl : v = .null := by simpa [entry] using null
        rfl
    simp [unordered, none]
  · have entry : o.get? Payload.expiryKey = Option.some (.ofInt time) := by
      cases entry : o.get? Payload.expiryKey with
      | none => simp [entry, Json.ofInt] at stored
      | some v => simpa [entry] using stored
    rw [entry, Query.ordered_le_ofInt (Word.natAbs_lt range) (Word.natAbs_lt inRange), some]
    simp

/-- Below `2 ^ 53` doubles tell all times apart. -/
theorem due_iff_isExpired {d : Document} {o : Object}
    (lies : d.get? payloadKey = some (.object o)) {p : Payload} (read : Payload.ofObject o = .ok p)
    {now : Int} (small : now.natAbs < pow2 53)
    (smallExpiry : ∀ time, p.expiresAt = some time → time.natAbs < pow2 53) :
    due now d = true ↔ p.isExpired now = true := by
  have p53 : pow2 53 = 9007199254740992 := rfl
  have inRange : -Word.half64 ≤ now ∧ now < Word.half64 := by
    simp only [Word.half64]
    omega
  rw [due_of_payload lies read inRange, Payload.isExpired]
  cases expires : p.expiresAt with
  | none => simp
  | some time =>
    simp [Binary64.nearest_of_natAbs_lt small,
      Binary64.nearest_of_natAbs_lt (smallExpiry time expires)]

theorem ofDocument_toDocument_eq_ok {score : Option Single} {r : Record} {m : StoredMemory}
    (read : StoredMemory.ofDocument score r.toDocument = .ok m) :
    Payload.ofObject r.payload.toDocument = .ok m.payload := by
  rw [VectorStore.ofDocument_toDocument] at read
  obtain ⟨p, decoded, rfl⟩ := Fallible.map_eq_ok.mp read
  unfold Payload.ofDocument at decoded
  split at decoded
  · next q value => rw [value, Except.ok.inj decoded]
  · cases decoded

theorem nearest_le_iff (time now : Int) :
    (Binary64.nearest time ≤ Binary64.nearest now ↔ time ≤ now) ↔
      ¬(now < time ∧ Binary64.nearest time = Binary64.nearest now) := by
  -- rounding keeps the order, so it can only make a later time equal
  by_cases early : time ≤ now
  · have := Binary64.nearest_mono early
    omega
  · have := Binary64.nearest_mono (show now ≤ time by omega)
    omega

/-- A sweep removes an inserted memory exactly when its payload, and the item made of it, is
expired, unless the expiry is later than the sweep and has the same nearest double. -/
theorem removes_iff_expired_iff (v : VectorStore) (records : List Record) (w w' : World Database)
    (inserted : Task.run (v.insert (records.map (·.id)) (records.map (·.vector))
      (records.map (·.payload))) w = (.ok (), w'))
    (r : Record) (member : r ∈ records) (score : Option Single) (m : StoredMemory)
    (read : StoredMemory.ofDocument score r.toDocument = .ok m) (now : Int)
    (inRange : -Word.half64 ≤ now ∧ now < Word.half64) :
    r.toDocument ∈ w'.store.documents v.collection ∧
      (MemoryItem.ofStored m).isExpired now = m.payload.isExpired now ∧
      ∃ report w'', Task.run (run v.collection now) w' = (.ok report, w'') ∧
        ((r.toDocument ∉ w''.store.documents v.collection ↔ m.payload.isExpired now = true) ↔
          ¬∃ time, m.payload.expiresAt = some time ∧ now < time ∧
            Binary64.nearest time = Binary64.nearest now) := by
  obtain ⟨ds, made, appended, reached⟩ := VectorStore.insert_appended inserted
  have decoded := ofDocument_toDocument_eq_ok read
  have listed : r.toDocument ∈ ds := by
    rw [VectorStore.documents_eq_ok made, List.zip_map', List.zip_map', List.map_map]
    exact List.mem_map.mpr ⟨r, member, rfl⟩
  have stored : r.toDocument ∈ w'.store.documents v.collection := by
    rw [appended.grown]
    exact List.mem_append_right _ listed
  have online : w'.store.offline = false :=
    appended.offline.trans (reached (List.ne_nil_of_mem listed))
  obtain ⟨w'', swept, left⟩ := run_spec online v.collection now
  refine ⟨stored, MemoryItem.isExpired_ofStored decoded now, _, w'', swept, ?_⟩
  have removed : r.toDocument ∉ w''.store.documents v.collection ↔ due now r.toDocument = true := by
    rw [left, List.mem_filter]
    simp [stored]
  rw [removed, due_of_payload rfl decoded inRange, Payload.isExpired]
  cases expires : m.payload.expiresAt with
  | none => simp
  | some time => simpa using nearest_le_iff time now

theorem removes_expired :
    ∃ w w' : World Database, ∃ report,
      Task.run (VectorStore.insert ⟨⟨"memories", 1, .diskann, 0, 50⟩⟩ ["a"] [[.ofInt 1]]
        [⟨"t", .fact, ⟨some "u", none, none⟩, some 7, []⟩]) ⟨.empty, .empty⟩ = (.ok (), w) ∧
      Task.run (run "memories" 7) w = (.ok report, w') ∧
      Record.toDocument ⟨"a", [.ofInt 1], ⟨"t", .fact, ⟨some "u", none, none⟩, some 7, []⟩⟩ ∉
        w'.store.documents "memories" := by
  have inserted : Task.run (VectorStore.insert ⟨⟨"memories", 1, .diskann, 0, 50⟩⟩ ["a"]
      [[.ofInt 1]] [⟨"t", .fact, ⟨some "u", none, none⟩, some 7, []⟩])
      (⟨.empty, .empty⟩ : World Database) = (.ok (), _) := rfl
  obtain ⟨-, -, report, w', swept, exact⟩ :=
    removes_iff_expired_iff ⟨⟨"memories", 1, .diskann, 0, 50⟩⟩
      [⟨"a", [.ofInt 1], ⟨"t", .fact, ⟨some "u", none, none⟩, some 7, []⟩⟩] _ _ inserted _
      List.mem_cons_self none _ rfl 7 (by decide)
  refine ⟨_, w', report, inserted, swept, (exact.mpr ?_).mpr rfl⟩
  rintro ⟨time, expires, later, -⟩
  have : (7 : Int) = time := Option.some.inj expires
  omega

/-- At `2 ^ 53` a memory is removed that expires a second later. -/
theorem removes_unexpired :
    ∃ w w' : World Database,
      Task.run (VectorStore.insert ⟨⟨"memories", 1, .diskann, 0, 50⟩⟩ ["a"] [[.ofInt 1]]
        [⟨"t", .fact, ⟨some "u", none, none⟩, some 9007199254740993, []⟩]) ⟨.empty, .empty⟩ =
          (.ok (), w) ∧
      Payload.isExpired ⟨"t", .fact, ⟨some "u", none, none⟩, some 9007199254740993, []⟩
        9007199254740992 = false ∧
      Task.run (run "memories" 9007199254740992) w = (.ok ⟨1, ["a"]⟩, w') ∧
      w'.store.documents "memories" = [] :=
  ⟨_, _, rfl, rfl, rfl, rfl⟩

end Sweep

end MemoryBank
