import MemoryBank.Proofs.Store.Selecting
import MemoryBank.Proofs.Sweep

set_option autoImplicit false

/-!
What a sweep does to a store, whatever lies in it. The search and the deletion of a sweep see the
same documents, so its report tells of exactly those that it removes, and to sweep again at the same
time finds nothing more.
-/

namespace MemoryBank

namespace Document

/-- The document has an id, and it is not null. -/
def bearsId (d : Document) : Bool :=
  match d.get? idKey with
  | none | some .null => false
  | some _ => true

theorem isSome_id? (d : Document) : d.id?.isSome = d.bearsId := by
  unfold id? bearsId
  cases d.get? idKey with
  | none => rfl
  | some v => cases v <;> rfl

theorem map_some_ids (ds : List Document) :
    (ds.filterMap (·.id?)).map some = (ds.filter bearsId).map (·.id?) := by
  induction ds with
  | nil => rfl
  | cons d rest ih =>
    rw [List.filter_cons, ← isSome_id?, List.filterMap_cons]
    cases shown : d.id? with
    | none => simpa using ih
    | some id => simp [shown, ih]

end Document

namespace Sweep

theorem passes_expired (now : Int) (d : Document) : d.passes (expired now) = due now d :=
  Document.passes_of_satisfies (satisfies_expired now d)

/-- Only a number can be due. -/
theorem due_of_no_number {now : Int} {d : Document}
    (other : ∀ n, d.getPath? [payloadKey, Payload.expiryKey] ≠ some (.number n)) :
    due now d = false := by
  unfold due
  cases stored : d.getPath? [payloadKey, Payload.expiryKey] with
  | none => rfl
  | some v =>
    cases v with
    | number n => exact absurd stored (other n)
    | null | bool _ | string _ | array _ | object _ => rfl

/-- The store once the calls of a sweep have been noted in its log. -/
def noted (collection : String) (now : Int) (db : Database) : Database :=
  .arrive (.deleteMany collection (expired now)) (.arrive (.find collection (expired now) none) db)

/-- A sweep of a store that can be reached: what it reports, and the world that it leaves. -/
theorem run_eq {w : World Database} (online : w.store.offline = false) (collection : String)
    (now : Int) :
    Task.run (run collection now) w =
      (.ok ⟨(w.store.documents collection).countP (due now),
          ((w.store.documents collection).filter (due now)).filterMap (·.id?)⟩,
        ⟨(noted collection now w.store).refill collection
          ((w.store.documents collection).filter (!due now ·)), w.verdicts⟩) := by
  have judged : ∀ d ∈ w.store.documents collection,
      d.satisfies (expired now) = .ok (d.passes (expired now)) := fun d _ => by
    rw [passes_expired, satisfies_expired]
  have searched := Database.perform_find online judged
  have deleted := Database.leaves_deleteMany (show (Database.arrive
    (.find collection (expired now) none) w.store).offline = false from online) judged
  simp only [passes_expired] at searched deleted
  rw [run, Task.run_bind, Task.run_call, searched]
  simp only
  rw [Task.run_bind, Task.run_call, deleted]
  rfl

theorem refill_noted (collection : String) (now : Int) (db : Database) (ds : List Document) :
    noted collection now (db.refill collection ds) =
      (noted collection now db).refill collection ds := by
  rw [noted, Database.arrive_refill, Database.arrive_refill]
  rfl

theorem documents_swept (collection : String) (now : Int) (db : Database) :
    ((noted collection now db).refill collection
      ((db.documents collection).filter (!due now ·))).documents collection =
        (db.documents collection).filter (!due now ·) := by
  refine Database.documents_refill _ _ fun bare => ?_
  rw [show db.documents collection = [] from bare]
  rfl

/-- A second sweep at the same time finds nothing, and only the log shows that it was there. -/
theorem run_again {w w' : World Database} (online : w.store.offline = false)
    {collection : String} {now : Int} {report : SweepReport}
    (swept : Task.run (run collection now) w = (.ok report, w')) :
    Task.run (run collection now) w' =
      (.ok ⟨0, []⟩, { w' with store := noted collection now w'.store }) := by
  rw [run_eq online] at swept
  obtain ⟨-, rfl⟩ := Prod.mk.inj swept
  have kept := documents_swept collection now w.store
  have left : ∀ d ∈ (w.store.documents collection).filter (!due now ·), due now d = false :=
    fun d member => by simpa using (List.mem_filter.mp member).2
  generalize (w.store.documents collection).filter (!due now ·) = ds at kept left
  have reached : ((noted collection now w.store).refill collection ds).offline = false :=
    (Database.offline_refill ..).trans online
  have nothing : ds.countP (due now) = 0 ∧ ds.filter (due now) = [] ∧ ds.filter (!due now ·) = ds :=
    ⟨List.countP_eq_zero.mpr fun d member => by simp [left d member],
      List.filter_eq_nil_iff.mpr fun d member => by simp [left d member],
      List.filter_eq_self.mpr fun d member => by simp [left d member]⟩
  rw [run_eq reached, kept, nothing.1, nothing.2.1, nothing.2.2, refill_noted,
    Database.refill_refill]
  rfl

/-- A sweep of a store that can be reached goes through, whatever documents there are. It removes
those that its filter matches, reports their number and the ids of those that have one, and leaves
everything else as it was; only a number can match. To sweep again at the same time changes nothing
but the log. -/
theorem removes_exactly_matching (w : World Database) (online : w.store.offline = false)
    (collection : String) (now : Int) :
    ∃ report w', Task.run (run collection now) w = (.ok report, w') ∧
      (∀ d : Document, d.satisfies (expired now) = .ok (d.passes (expired now))) ∧
      w'.store.documents collection =
        (w.store.documents collection).filter (!·.passes (expired now)) ∧
      report.deleted = ((w.store.documents collection).filter (·.passes (expired now))).length ∧
      report.ids.map some = (((w.store.documents collection).filter
        (·.passes (expired now))).filter (·.bearsId)).map (·.id?) ∧
      (∀ d : Document, (∀ n, d.getPath? [payloadKey, Payload.expiryKey] ≠ some (.number n)) →
        d.passes (expired now) = false) ∧
      (∀ other, w'.store.catalogue? other = w.store.catalogue? other) ∧
      (∀ other, other ≠ collection → w'.store.find? other = w.store.find? other) ∧
      w'.verdicts = w.verdicts ∧
      Task.run (run collection now) w' =
        (.ok ⟨0, []⟩, { w' with store := noted collection now w'.store }) := by
  have swept := run_eq online collection now
  refine ⟨_, _, swept, fun d => ?_, ?_, ?_, ?_, fun d other => ?_, fun other => ?_,
    fun other away => ?_, rfl, run_again online swept⟩
  · rw [passes_expired, satisfies_expired]
  · simp only [passes_expired, documents_swept]
  · simp only [passes_expired, List.countP_eq_length_filter]
  · simp only [passes_expired, Document.map_some_ids]
  · rw [passes_expired, due_of_no_number other]
  · exact Database.catalogue?_refill ..
  · exact (Database.find?_refill ..).trans (if_neg away)

/-- Expiries of all kinds; at 6 two documents are due, one of them without an id. -/
def mixedExpiries : World Database where
  store := Database.after [.insert "memories" [
    [("_id", .string "a"), (payloadKey, .object [("expires_at", .ofInt 5)])],
    [("_id", .string "b"), (payloadKey, .object [("expires_at", .string "5")])],
    [("_id", .ofInt 7), (payloadKey, .object [("expires_at", .number (.float 6.5))])],
    [("_id", .string "c"), (payloadKey, .object [("expires_at", .null)])],
    [("_id", .null), (payloadKey, .object [("expires_at", .ofInt (-1))])],
    [("_id", .string "d"), (payloadKey, .ofInt 5)],
    [("_id", .string "e"), (payloadKey, .object [("expires_at", .object [("at", .ofInt 5)])])]]]
  verdicts := .empty

theorem removes_mixedExpiries :
    ∃ report w', Task.run (run "memories" 6) mixedExpiries = (.ok report, w') ∧
      report.deleted = 2 ∧ report.ids.map some = [some "a"] ∧
      (w'.store.documents "memories").map (·.get? Document.idKey) =
        [some (.string "b"), some (.ofInt 7), some (.string "c"), some (.string "d"),
          some (.string "e")] ∧
      Task.run (run "memories" 6) w' =
        (.ok ⟨0, []⟩, { w' with store := noted "memories" 6 w'.store }) := by
  obtain ⟨report, w', swept, -, left, deleted, ids, -, -, -, -, again⟩ :=
    removes_exactly_matching mixedExpiries rfl "memories" 6
  refine ⟨report, w', swept, deleted.trans ?_, ids.trans ?_, ?_, again⟩
  · rfl
  · rfl
  · rw [left]
    rfl

end Sweep

end MemoryBank
