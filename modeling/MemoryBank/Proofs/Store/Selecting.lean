import MemoryBank.Proofs.Store.Filtering
import MemoryBank.Proofs.Store.Places
import MemoryBank.Proofs.Store.Uniqueness

set_option autoImplicit false

/-!
All verbs of a store select alike: where a search without a limit goes through, every other verb
takes the documents that it finds, the first of them, or as many as it may, and leaves the others
where they are.
-/

namespace MemoryBank

namespace Database

/-- The database with these documents in a collection, if the collection is there. -/
def refill (db : Database) (name : String) (ds : List Document) : Database :=
  match db.find? name with
  | none => db
  | some c => db.put name { c with documents := ds }

variable {db : Database} {name : String}

theorem refill_of_find? {c : Collection} (found : db.find? name = some c) (ds : List Document) :
    db.refill name ds = db.put name { c with documents := ds } := by
  rw [refill, found]

theorem refill_of_missing (missing : db.find? name = none) (ds : List Document) :
    db.refill name ds = db := by
  rw [refill, missing]

theorem find?_refill (db : Database) (name : String) (ds : List Document) (other : String) :
    (db.refill name ds).find? other =
      if other = name then (db.find? name).map fun c => { c with documents := ds }
      else db.find? other := by
  cases found : db.find? name with
  | none =>
    rw [refill_of_missing found]
    split
    · next here => rw [here, found]; rfl
    · rfl
  | some c =>
    rw [refill_of_find? found]
    exact NameMap.get?_insert ..

theorem documents_refill (db : Database) (name : String) {ds : List Document}
    (bare : db.documents name = [] → ds = []) : (db.refill name ds).documents name = ds := by
  cases found : db.find? name with
  | none =>
    have missing := documents_of_missing found
    rw [refill_of_missing found, missing, bare missing]
  | some c => rw [refill_of_find? found, documents_put, if_pos rfl]

theorem offline_refill (db : Database) (name : String) (ds : List Document) :
    (db.refill name ds).offline = db.offline := by
  unfold refill
  cases db.find? name <;> rfl

theorem catalogue?_refill (db : Database) (name : String) (ds : List Document) (other : String) :
    (db.refill name ds).catalogue? other = db.catalogue? other := by
  cases found : db.find? name with
  | none => rw [refill_of_missing found]
  | some c => rw [refill_of_find? found, catalogue?_put_documents found]

theorem refill_refill (db : Database) (name : String) (ds ds' : List Document) :
    (db.refill name ds).refill name ds' = db.refill name ds' := by
  cases found : db.find? name with
  | none => rw [refill_of_missing found]
  | some c =>
    rw [refill_of_find? found, refill_of_find? (find?_put_self db name _), refill_of_find? found]
    simp only [put, NameMap.insert_insert]

theorem arrive_refill (c : Call) (db : Database) (name : String) (ds : List Document) :
    arrive c (db.refill name ds) = (arrive c db).refill name ds := by
  cases found : db.find? name with
  | none => rw [refill_of_missing found, @refill_of_missing (arrive c db) name found]
  | some held =>
    rw [refill_of_find? found, @refill_of_find? (arrive c db) name held found]
    rfl

end Database

namespace Call

/-- The call finds this and changes nothing. -/
def Shows (c : Call) (db : Database) (reply : c.Reply) : Prop :=
  DocumentStore.perform c db = (.ok reply, .arrive c db)

/-- The call answers this and leaves its collection with these documents; the indexes and all other
collections stay as they are. -/
def Leaves (c : Call) (db : Database) (reply : c.Reply) (ds : List Document) : Prop :=
  DocumentStore.perform c db = (.ok reply, (Database.arrive c db).refill c.target ds)

end Call

theorem Document.judged_of_selectFirst {filter : Document} {limit : Nat} {ds found : List Document}
    (enough : ds.length ≤ limit) (selected : selectFirst filter limit ds = .ok found) :
    ∀ d ∈ ds, d.satisfies filter = .ok (d.passes filter) := by
  induction ds generalizing limit found with
  | nil => simp
  | cons d rest ih =>
    obtain ⟨limit, rfl⟩ := Nat.exists_eq_add_one_of_ne_zero (Nat.ne_of_gt
      (Nat.lt_of_lt_of_le (Nat.succ_pos _) enough))
    have behind : rest.length ≤ limit := Nat.le_of_succ_le_succ enough
    obtain ⟨passed, judged, selected⟩ := Fallible.bind_eq_ok.mp selected
    refine List.forall_mem_cons.mpr ⟨judged.trans (by rw [passes_of_satisfies judged]), ?_⟩
    cases passed with
    | false => exact ih (Nat.le_succ_of_le behind) selected
    | true =>
      obtain ⟨others, rested, -⟩ := Fallible.bind_eq_ok.mp selected
      exact ih behind rested

theorem Pipeline.selectRows_of_satisfies {filter : Document} {rows : List Row}
    (judged : ∀ row ∈ rows,
      row.document.satisfies filter = .ok (row.document.passes filter)) :
    selectRows filter rows = .ok (rows.filter (·.document.passes filter)) := by
  induction rows with
  | nil => rfl
  | cons row rest ih =>
    rw [List.forall_mem_cons] at judged
    rw [selectRows, judged.1, ih judged.2]
    cases choice : row.document.passes filter <;> simp [choice, pure, Except.pure]

namespace Database

variable {db : Database} {name : String} {filter : Document}

/-- A search without a limit judges all documents. -/
theorem find_eq_ok_iff {ms : List Document} :
    find name filter none db = .ok ms ↔
      (∀ d ∈ db.documents name, d.satisfies filter = .ok (d.passes filter)) ∧
        ms = (db.documents name).filter (·.passes filter) := by
  have whole (judged : ∀ d ∈ db.documents name, d.satisfies filter = .ok (d.passes filter)) :=
    find_of_satisfies judged
  refine ⟨fun found => ?_, fun ⟨judged, value⟩ => value ▸ whole judged⟩
  have judged : ∀ d ∈ db.documents name, d.satisfies filter = .ok (d.passes filter) := by
    unfold find at found
    cases here : db.find? name with
    | none => simp [documents_of_missing here]
    | some c =>
      rw [here] at found
      rw [documents_of_find? here]
      exact Document.judged_of_selectFirst (Nat.le_refl _) found
  exact ⟨judged, Except.ok.inj (found.symm.trans (whole judged))⟩

theorem findOne_of_satisfies
    (judged : ∀ d ∈ db.documents name, d.satisfies filter = .ok (d.passes filter)) :
    findOne name filter db = .ok ((db.documents name).filter (·.passes filter)).head? := by
  unfold findOne
  cases found : db.find? name with
  | none =>
    rw [documents_of_missing found]
    rfl
  | some c =>
    rw [documents_of_find? found] at judged ⊢
    simp only
    rw [selectFirst_of_satisfies judged, Fallible.ok_map, List.head?_take]
    rfl

theorem aggregate_of_satisfies
    (judged : ∀ d ∈ db.documents name, d.satisfies filter = .ok (d.passes filter)) :
    aggregate name [[("$match", .object filter)]] db =
      .ok ((db.documents name).filter (·.passes filter)) := by
  have single : aggregate name [[("$match", .object filter)]] db =
      (·.map (·.document)) <$> Pipeline.selectRows filter (db.opened name).rows := by
    change (Pipeline.selectRows filter (db.opened name).rows >>= Except.ok) >>= _ = _
    cases Pipeline.selectRows filter (db.opened name).rows <;> rfl
  have rows : ∀ row ∈ (db.opened name).rows,
      row.document.satisfies filter = .ok (row.document.passes filter) :=
    List.forall_mem_map.mpr judged
  rw [single, Pipeline.selectRows_of_satisfies rows, Fallible.ok_map, Collection.rows,
    List.filter_map, List.map_map]
  exact congrArg Except.ok (List.map_id _)

/-- The first document that passes, and what lies around it. -/
theorem exists_selects {ds rest : List Document} {d : Document}
    (judged : ∀ d ∈ ds, d.satisfies filter = .ok (d.passes filter))
    (passing : ds.filter (·.passes filter) = d :: rest) :
    ∃ before behind, Selects filter ds before d behind := by
  obtain ⟨before, behind, split, passed, selected, -⟩ := List.filter_eq_cons_iff.mp passing
  have among : ∀ e ∈ before ++ d :: behind, e.satisfies filter = .ok (e.passes filter) :=
    split ▸ judged
  refine ⟨before, behind, split, fun e member => ?_, ?_⟩
  · rw [among e (List.mem_append_left _ member), Bool.eq_false_iff.mpr (passed e member)]
  · rw [among d (List.mem_append_right _ List.mem_cons_self), selected]

section

variable {ds : List Document}

theorem Selects.deleteFirst {before behind : List Document} {d : Document}
    (selects : Selects filter ds before d behind) :
    Database.deleteFirst filter ds = (.ok 1, before ++ behind) := by
  obtain ⟨rfl, passed, selected⟩ := selects
  induction before with
  | nil => simp only [List.nil_append, Database.deleteFirst, selected]
  | cons e rest ih =>
    rw [List.forall_mem_cons] at passed
    simp only [List.cons_append, Database.deleteFirst, passed.1, ih passed.2]

theorem deleteFirst_of_none (none : ∀ d ∈ ds, d.satisfies filter = .ok false) :
    deleteFirst filter ds = (.ok 0, ds) := by
  induction ds with
  | nil => rfl
  | cons d rest ih =>
    rw [List.forall_mem_cons] at none
    simp only [deleteFirst, none.1, ih none.2]

theorem updateFirst_of_none (none : ∀ d ∈ ds, d.satisfies filter = .ok false)
    (change : Document) : updateFirst filter change ds = (.ok ⟨0, 0⟩, ds) := by
  induction ds with
  | nil => rfl
  | cons d rest ih =>
    rw [List.forall_mem_cons] at none
    simp only [updateFirst, none.1, ih none.2]

end

section

variable (online : db.offline = false)
include online

theorem leaves_of_execute {c : Call} {reply : c.Reply} {ds : List Document}
    (missing : (arrive c db).find? c.target = none →
      execute c (arrive c db) = (.ok reply, arrive c db))
    (there : ∀ held, (arrive c db).find? c.target = some held →
      execute c (arrive c db) =
        (.ok reply, (arrive c db).put c.target { held with documents := ds })) :
    c.Leaves db reply ds := by
  rw [Call.Leaves, perform_of_online online]
  cases found : (arrive c db).find? c.target with
  | none => rw [refill_of_missing found, missing found]
  | some held => rw [refill_of_find? found, there held found]

theorem leaves_deleteMany
    (judged : ∀ d ∈ db.documents name, d.satisfies filter = .ok (d.passes filter)) :
    (Call.deleteMany name filter).Leaves db ((db.documents name).countP (·.passes filter))
      ((db.documents name).filter (!·.passes filter)) := by
  refine leaves_of_execute online (fun missing => ?_) fun held found => ?_
  · simp only [execute, deleteMany, show (arrive _ db).find? name = none from missing]
    rw [documents_of_missing (show db.find? name = none from missing)]
    rfl
  · rw [documents_of_find? (show db.find? name = some held from found)] at judged ⊢
    simp only [execute, deleteMany, show (arrive _ db).find? name = some held from found,
      deleteSelected_of_satisfies judged]
    rfl

theorem leaves_deleteOne {n : Nat} {ds : List Document}
    (deleted : deleteFirst filter (db.documents name) = (.ok n, ds)) :
    (Call.deleteOne name filter).Leaves db n ds := by
  refine leaves_of_execute online (fun missing => ?_) fun held found => ?_
  · rw [documents_of_missing (show db.find? name = none from missing)] at deleted
    simp only [execute, deleteOne, show (arrive _ db).find? name = none from missing]
    rw [← (Prod.mk.inj deleted).1]
  · rw [documents_of_find? (show db.find? name = some held from found)] at deleted
    simp only [execute, deleteOne, show (arrive _ db).find? name = some held from found, deleted]
    rfl

theorem leaves_update {change : Document} {count : UpdateCount} {ds : List Document}
    (updated : updateFirst filter change (db.documents name) = (.ok count, ds)) :
    (Call.update name filter change).Leaves db count ds := by
  refine leaves_of_execute online (fun missing => ?_) fun held found => ?_
  · rw [documents_of_missing (show db.find? name = none from missing)] at updated
    simp only [execute, update, show (arrive _ db).find? name = none from missing]
    rw [← (Prod.mk.inj updated).1]
  · rw [documents_of_find? (show db.find? name = some held from found)] at updated
    simp only [execute, update, show (arrive _ db).find? name = some held from found, updated]
    rfl

end

/-- Where a search without a limit finds some documents, all verbs select these: a search with a
limit, one for a single document and a pipeline show them from the first on, a bulk deletion removes
them, and what deletes or updates one document reaches the first of them. -/
theorem verbs_select_alike {ms : List Document}
    (found : (DocumentStore.perform (.find name filter none) db).1 = .ok ms) :
    ms = (db.documents name).filter (·.passes filter) ∧
    (∀ n, 0 < n → (Call.find name filter (some n)).Shows db (ms.take n)) ∧
    (Call.findOne name filter).Shows db ms.head? ∧
    (Call.aggregate name [[("$match", .object filter)]]).Shows db ms ∧
    (Call.deleteMany name filter).Leaves db ms.length
      ((db.documents name).filter (!·.passes filter)) ∧
    match ms with
    | [] => (Call.deleteOne name filter).Leaves db 0 (db.documents name) ∧
        ∀ change, (Call.update name filter change).Leaves db ⟨0, 0⟩ (db.documents name)
    | d :: _ => ∃ before behind, Selects filter (db.documents name) before d behind ∧
        (Call.deleteOne name filter).Leaves db 1 (before ++ behind) ∧
        ∀ change d', Update.apply change d = (.ok (), d') →
          (Call.update name filter change).Leaves db ⟨1, if d'.same d then 0 else 1⟩
            (before ++ d' :: behind) := by
  obtain ⟨online, -, -⟩ := perform_find_eq_ok (Prod.ext found rfl)
  rw [perform_of_online online] at found
  obtain ⟨judged, passing⟩ : (∀ d ∈ db.documents name, d.satisfies filter = .ok (d.passes filter)) ∧
      ms = (db.documents name).filter (·.passes filter) :=
    (@find_eq_ok_iff (arrive (.find name filter none) db) ..).mp found
  refine ⟨passing, fun n positive => ?_, ?_, ?_, ?_, ?_⟩
  · obtain ⟨n, rfl⟩ := Nat.exists_eq_add_one_of_ne_zero (Nat.ne_of_gt positive)
    rw [Call.Shows, perform_of_online online, execute,
      @find_first_of_satisfies (arrive _ db) _ _ _ judged, passing]
    rfl
  · rw [Call.Shows, perform_of_online online, execute,
      @findOne_of_satisfies (arrive _ db) _ _ judged, passing]
    rfl
  · rw [Call.Shows, perform_of_online online, execute,
      @aggregate_of_satisfies (arrive _ db) _ _ judged, passing]
    rfl
  · rw [passing, ← List.countP_eq_length_filter]
    exact leaves_deleteMany online judged
  · cases ms with
    | nil =>
      have none : ∀ d ∈ db.documents name, d.satisfies filter = .ok false := fun d member => by
        have failing := Bool.eq_false_iff.mpr (List.filter_eq_nil_iff.mp passing.symm d member)
        rw [judged d member, failing]
      exact ⟨leaves_deleteOne online (deleteFirst_of_none none), fun change =>
        leaves_update online (updateFirst_of_none none change)⟩
    | cons d rest =>
      obtain ⟨before, behind, selects⟩ := exists_selects judged passing.symm
      refine ⟨before, behind, selects, leaves_deleteOne online selects.deleteFirst,
        fun change d' changed => leaves_update online ?_⟩
      rw [selects.updateFirst_eq, changed]
      rfl

/-- The numbers from two on, and what has another tag than this. -/
def large : Document :=
  [("$or", .array [.object [("n", .object [("$gte", .ofInt 2)])],
    .object [("$and", .array [.object [("tag", .object [("$exists", .bool true)])],
      .object [("tag", .object [("$nin", .array [.string "x"])])]])]])]

def numbered : Database :=
  after [.insert "memories" [[("_id", .string "a"), ("n", .ofInt 1), ("tag", .string "x")],
    [("_id", .string "b"), ("n", .ofInt 2)], [("_id", .string "c"), ("tag", .string "y")]]]

theorem verbs_select_large :
    (DocumentStore.perform (.find "memories" large none) numbered).1 =
        .ok [[("_id", .string "b"), ("n", .ofInt 2)],
          [("_id", .string "c"), ("tag", .string "y")]] ∧
      (Call.findOne "memories" large).Shows numbered
        (some [("_id", .string "b"), ("n", .ofInt 2)]) ∧
      (Call.deleteMany "memories" large).Leaves numbered 2
        [[("_id", .string "a"), ("n", .ofInt 1), ("tag", .string "x")]] ∧
      ∃ before behind, numbered.documents "memories" =
          before ++ [("_id", .string "b"), ("n", .ofInt 2)] :: behind ∧
        (Call.deleteOne "memories" large).Leaves numbered 1 (before ++ behind) := by
  have found : (DocumentStore.perform (.find "memories" large none) numbered).1 =
      .ok [[("_id", .string "b"), ("n", .ofInt 2)],
        [("_id", .string "c"), ("tag", .string "y")]] := by rfl
  obtain ⟨-, -, first, -, deleted, before, behind, selects, deletedFirst, -⟩ :=
    verbs_select_alike found
  exact ⟨found, first, deleted, before, behind, selects.split, deletedFirst⟩

end Database

end MemoryBank
