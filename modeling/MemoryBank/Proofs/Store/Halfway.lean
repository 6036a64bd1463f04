import MemoryBank.Proofs.Service.Deeds
import MemoryBank.Proofs.Service.Failing

set_option autoImplicit false

/-!
How far a write has come when it fails. A bulk deletion has taken all documents out of the
collection by then. An update has taken its steps up to the one that fails, and they stay taken.
-/

namespace MemoryBank

/-- The call fails here although it has changed the documents of its collection. -/
def Call.HalfDone (c : Call) (db : Database) : Prop :=
  (∃ cause, (DocumentStore.perform c db).1 = .error cause) ∧
    (DocumentStore.perform c db).2.documents c.target ≠ db.documents c.target

namespace Update

/-- A step that an update takes with a document, or refuses to take. -/
inductive Step
  | set (path : Path) (value : Json)
  | unset (path : Path)
  | refuse (cause : StoreFault)

namespace Step

def take : Step → Document → Result Document
  | set path value, d => d.setPath value path
  | unset path, d => .ok (d.erasePath path)
  | refuse cause, _ => .error (.store cause)

def takeAll (steps : List Step) (d : Document) : Result Document :=
  steps.foldlM (fun d step => step.take d) d

/-- The document as it is left when a step fails, or when all are taken. -/
def run : List Step → Document → Result Unit × Document
  | [], d => (.ok (), d)
  | step :: rest, d =>
      match step.take d with
      | .ok d => run rest d
      | .error cause => (.error cause, d)

def setting (field : String × Json) : Step :=
  if field.1 = "_id" then refuse .idChange else set (Path.ofText field.1) field.2

def unsetting (field : String × Json) : Step := unset (Path.ofText field.1)

def ofModifier (modifier : String) : Json → List Step
  | .object fields =>
      if modifier = "$set" then fields.map setting
      else if modifier = "$unset" then fields.map unsetting
      else [refuse (.unknownModifier modifier)]
  | _ => [refuse (.modifierNotDocument modifier)]

theorem run_append (first rest : List Step) (d : Document) :
    run (first ++ rest) d =
      match run first d with
      | (.ok (), d) => run rest d
      | (.error cause, d) => (.error cause, d) := by
  induction first generalizing d with
  | nil => rfl
  | cons step first ih =>
    rw [List.cons_append, run, run]
    cases step.take d with
    | error cause => rfl
    | ok d => exact ih d

theorem run_eq_ok_iff {steps : List Step} {d d' : Document} :
    run steps d = (.ok (), d') ↔ takeAll steps d = .ok d' := by
  induction steps generalizing d with
  | nil => simp [run, takeAll, pure, Except.pure]
  | cons step rest ih =>
    rw [run, takeAll, List.foldlM_cons]
    cases step.take d with
    | error cause => simp
    | ok d => exact ih

/-- The steps in front of the one that fails stay taken. -/
theorem run_eq_error_iff {steps : List Step} {d d' : Document} {cause : Failure} :
    run steps d = (.error cause, d') ↔ ∃ taken step rest, steps = taken ++ step :: rest ∧
      takeAll taken d = .ok d' ∧ step.take d' = .error cause := by
  constructor
  · intro failed
    induction steps generalizing d with
    | nil => cases (Prod.mk.inj failed).1
    | cons step rest ih =>
      rw [run] at failed
      cases here : step.take d with
      | error other =>
        rw [here] at failed
        obtain ⟨same, rfl⟩ := Prod.mk.inj failed
        obtain rfl := Except.error.inj same
        exact ⟨[], step, rest, rfl, rfl, here⟩
      | ok next =>
        rw [here] at failed
        obtain ⟨taken, last, rest, rfl, done, broken⟩ := ih failed
        refine ⟨step :: taken, last, rest, rfl, ?_, broken⟩
        rw [takeAll, List.foldlM_cons, here]
        exact done
  · rintro ⟨taken, step, rest, rfl, done, broken⟩
    rw [run_append, run_eq_ok_iff.mpr done]
    simp only [run, broken]

theorem run_setting (fields : Object) (d : Document) :
    run (fields.map setting) d = setAll fields d := by
  induction fields generalizing d with
  | nil => rfl
  | cons field rest ih =>
    obtain ⟨path, value⟩ := field
    rw [List.map_cons, run, setAll, setting]
    by_cases id : path = "_id"
    · rw [if_pos id, if_pos id]
      rfl
    · rw [if_neg id, if_neg id, take]
      cases d.setPath value (Path.ofText path) with
      | error cause => rfl
      | ok d => exact ih d

theorem run_unsetting (fields : Object) (d : Document) :
    run (fields.map unsetting) d = (.ok (), unsetAll fields d) := by
  induction fields generalizing d with
  | nil => rfl
  | cons field rest ih => exact ih (d.erasePath (Path.ofText field.1))

theorem run_ofModifier (modifier : String) (fields : Object) (d : Document) :
    run (ofModifier modifier (.object fields)) d = modify modifier fields d := by
  rw [ofModifier, modify]
  split
  · exact run_setting fields d
  · split
    · exact run_unsetting fields d
    · rfl

end Step

/-- The steps of an update, in the order in which they are taken. -/
def steps (change : Document) : List Step :=
  if change.isEmpty then [.refuse .emptyUpdate] else change.flatMap fun e => Step.ofModifier e.1 e.2

theorem run_flatMap (change d : Document) :
    Step.run (change.flatMap fun e => Step.ofModifier e.1 e.2) d = applyAll change d := by
  induction change generalizing d with
  | nil => rfl
  | cons e rest ih =>
    obtain ⟨modifier, value⟩ := e
    rw [List.flatMap_cons, Step.run_append]
    cases value with
    | object fields =>
      rw [Step.run_ofModifier, applyAll]
      rcases modify modifier fields d with ⟨_ | _, d'⟩
      · rfl
      · exact ih d'
    | null | bool _ | number _ | string _ | array _ => rfl

theorem apply_eq_run (change d : Document) : apply change d = Step.run (steps change) d := by
  rw [apply, steps]
  split
  · rfl
  · exact (run_flatMap change d).symm

/-- The update makes this of the document before one of its steps fails. -/
def Breaks (change d d' : Document) : Prop :=
  ∃ taken step rest, steps change = taken ++ step :: rest ∧
    Step.takeAll taken d = .ok d' ∧ ∃ cause, step.take d' = .error cause

theorem breaks_iff {change d d' : Document} :
    Breaks change d d' ↔ ∃ cause, apply change d = (.error cause, d') := by
  simp only [apply_eq_run, Step.run_eq_error_iff, Breaks]
  constructor
  · rintro ⟨taken, step, rest, all, done, cause, broken⟩
    exact ⟨cause, taken, step, rest, all, done, broken⟩
  · rintro ⟨cause, taken, step, rest, all, done, broken⟩
    exact ⟨taken, step, rest, all, done, cause, broken⟩

end Update

namespace Database

theorem halfDone_iff {c : Call} {db : Database} :
    c.HalfDone db ↔ db.offline = false ∧
      (∃ cause, (execute c (arrive c db)).1 = .error cause) ∧
        (execute c (arrive c db)).2.documents c.target ≠ db.documents c.target := by
  unfold Call.HalfDone
  cases offline : db.offline with
  | true =>
    rw [perform_of_offline offline]
    exact iff_of_false (fun half => half.2 rfl) (by simp)
  | false => simp [perform_of_online offline]

theorem documents_execute_deleteMany (name : String) (filter : Document) (db : Database) :
    (execute (.deleteMany name filter) db).2.documents name =
      match deleteSelected filter (db.documents name) with
      | .ok (_, kept) => kept
      | .error _ => [] := by
  cases found : db.find? name with
  | none => simp only [execute, deleteMany, found, documents_of_missing found, deleteSelected]
  | some c =>
    simp only [execute, deleteMany, found, documents_of_find? found]
    cases deleteSelected filter c.documents <;> simp only [documents_put, if_true]

theorem execute_deleteMany_fst (name : String) (filter : Document) (db : Database) :
    (execute (.deleteMany name filter) db).1 =
      Prod.fst <$> deleteSelected filter (db.documents name) := by
  cases found : db.find? name with
  | none => simp only [execute, deleteMany, found, documents_of_missing found]; rfl
  | some c =>
    simp only [execute, deleteMany, found, documents_of_find? found]
    cases deleteSelected filter c.documents <;> rfl

/-- The documents are all judged, so it does not matter where the one is that cannot be. -/
theorem deleteSelected_eq_error_iff {filter : Document} {ds : List Document} :
    (∃ cause, deleteSelected filter ds = .error cause) ↔
      ∃ d ∈ ds, ∃ cause, d.satisfies filter = .error cause := by
  induction ds with
  | nil => simp [deleteSelected]
  | cons d rest ih =>
    rw [List.exists_mem_cons_iff, ← ih, deleteSelected]
    cases d.satisfies filter with
    | error cause => simp
    | ok selected => cases deleteSelected filter rest <;> simp [pure, Except.pure]

theorem Selects.failed_iff {filter d : Document} {ds before behind : List Document}
    (selects : Selects filter ds before d behind) {change : Document} :
    (∃ cause, (Database.updateFirst filter change ds).1 = .error cause) ↔
      ∃ cause, (Update.apply change d).1 = .error cause := by
  rw [selects.updateFirst_eq]
  cases (Update.apply change d).1 <;> simp

/-- An update that selects no document leaves all as they are, also if its filter fails. -/
theorem updateFirst_halfDone_iff {filter change : Document} {ds : List Document} :
    ((∃ cause, (updateFirst filter change ds).1 = .error cause) ∧
        (updateFirst filter change ds).2 ≠ ds) ↔
      ∃ before d behind d', Selects filter ds before d behind ∧ Update.Breaks change d d' ∧
        d' ≠ d ∧ (updateFirst filter change ds).2 = before ++ d' :: behind := by
  constructor
  · rintro ⟨failed, changed⟩
    obtain ⟨before, d, behind, selects⟩ :=
      (updateFirst_eq_or_selects filter change ds).resolve_left changed
    obtain ⟨cause, broken⟩ := selects.failed_iff.mp failed
    have breaks : Update.Breaks change d (Update.apply change d).2 :=
      Update.breaks_iff.mpr ⟨cause, Prod.ext broken rfl⟩
    refine ⟨before, d, behind, _, selects, breaks, fun same => changed ?_, selects.updateFirst _⟩
    rw [selects.updateFirst, same, selects.split]
  · rintro ⟨before, d, behind, d', selects, breaks, other, written⟩
    obtain ⟨cause, broken⟩ := Update.breaks_iff.mp breaks
    refine ⟨selects.failed_iff.mpr ⟨cause, congrArg Prod.fst broken⟩, ?_⟩
    rw [written, selects.split]
    simpa using other

variable (name : String) (filter change : Document) (db : Database)

theorem deleteMany_fails_iff :
    (∃ cause, (execute (.deleteMany name filter) db).1 = .error cause) ↔
      ∃ d ∈ db.documents name, ∃ cause, d.satisfies filter = .error cause := by
  rw [execute_deleteMany_fst, ← deleteSelected_eq_error_iff]
  cases deleteSelected filter (db.documents name) <;> simp

variable {name filter db} in
theorem documents_deleteMany_failed
    (unjudged : ∃ d ∈ db.documents name, ∃ cause, d.satisfies filter = .error cause) :
    (execute (.deleteMany name filter) db).2.documents name = [] := by
  obtain ⟨cause, stopped⟩ := deleteSelected_eq_error_iff.mpr unjudged
  rw [documents_execute_deleteMany, stopped]

/-- A store that can be reached fails to delete if a document cannot be judged, wherever it stands,
and then all documents of the collection are gone. -/
theorem deleteMany_halfDone_iff :
    ((Call.deleteMany name filter).HalfDone db ↔
      db.offline = false ∧ ∃ d ∈ db.documents name, ∃ cause, d.satisfies filter = .error cause) ∧
    ((Call.deleteMany name filter).HalfDone db ↔
      (∃ cause, (DocumentStore.perform (.deleteMany name filter) db).1 = .error cause) ∧
        db.documents name ≠ [] ∧
          (DocumentStore.perform (.deleteMany name filter) db).2.documents name = []) := by
  have failed := deleteMany_fails_iff name filter (arrive (.deleteMany name filter) db)
  have left := @documents_deleteMany_failed name filter (arrive (.deleteMany name filter) db)
  constructor
  · rw [halfDone_iff, failed]
    refine and_congr_right fun _ => ⟨And.left, fun unjudged => ⟨unjudged, fun same => ?_⟩⟩
    have emptied := same.symm.trans (left unjudged)
    obtain ⟨d, member, -⟩ := unjudged
    exact List.ne_nil_of_mem member emptied
  · constructor
    · intro half
      obtain ⟨online, fails, changed⟩ := halfDone_iff.mp half
      have emptied := left (failed.mp fails)
      refine ⟨half.1, fun none => changed (emptied.trans none.symm), ?_⟩
      rw [perform_of_online online]
      exact emptied
    · rintro ⟨fails, some, emptied⟩
      exact ⟨fails, fun same => some (same.symm.trans emptied)⟩

/-- The filter takes the first document without a look at the operator, on which it fails for the
second. -/
theorem deleteMany_empties_and_fails :
    (Call.deleteMany "memories" [("$or", .array [.object [("n", .ofInt 1)],
      .object [("n", .object [("$regex", .string "2")])]])]).HalfDone
      (after [.insert "memories" [[("_id", .string "a"), ("n", .ofInt 1)],
        [("_id", .string "b"), ("n", .ofInt 2)]]]) :=
  ⟨⟨.store (.unknownOperator "$regex"), rfl⟩, fun same => by cases congrArg List.length same⟩

/-- An update stops half-way exactly if the first document that it selects takes some of its steps
and then refuses one, unless the steps have undone by then what they had done. What they have made
of it stays in its place. -/
theorem update_halfDone_iff :
    (Call.update name filter change).HalfDone db ↔
      db.offline = false ∧ ∃ before d behind d',
        Selects filter (db.documents name) before d behind ∧ Update.Breaks change d d' ∧
          d' ≠ d ∧ (DocumentStore.perform (.update name filter change) db).2.documents name =
            before ++ d' :: behind := by
  have changed := documents_execute_update name name filter change
    (arrive (.update name filter change) db)
  rw [if_pos rfl] at changed
  rw [halfDone_iff, execute_update_fst, Call.target, changed]
  refine and_congr_right fun online => ?_
  rw [perform_of_online online, changed]
  exact updateFirst_halfDone_iff

/-- The first modifier is through when the second, which names no fields, is refused. -/
theorem update_changes_and_fails :
    (Call.update "memories" (Document.withId "a")
      [("$set", .object [("n", .ofInt 2)]), ("$unset", .string "n")]).HalfDone
      (after [.insert "memories" [[("_id", .string "a"), ("n", .ofInt 1)]]]) :=
  ⟨⟨.store (.modifierNotDocument "$unset"), rfl⟩, fun same => by
    cases congrArg (List.map (Object.get? · "n")) same⟩

end Database

end MemoryBank
