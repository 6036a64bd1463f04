import MemoryBank.Proofs.Fallible
import MemoryBank.Store.Database

set_option autoImplicit false

/-!
The store fails for reasons of its own: nothing that it is called to do is refused as invalid, not
even a filter, an update or a pipeline that it cannot carry out.
-/

namespace MemoryBank

variable {α β : Type}

/-- Whatever comes of it, it is not refused as invalid. -/
def Accepted (r : Result α) : Prop := ∀ fault, r ≠ .error (.validation fault)

namespace Accepted

@[simp] theorem ok (a : α) : Accepted (.ok a) := nofun

@[simp] theorem returned (a : α) : Accepted (pure a) := nofun

@[simp] theorem store (fault : StoreFault) : Accepted (.error (.store fault) : Result α) := nofun

@[simp] theorem thrown (fault : StoreFault) : Accepted (throw (.store fault) : Result α) := nofun

@[simp] theorem missing (what : Missing) : Accepted (.error (.notFound what) : Result α) := nofun

@[simp] theorem bind_iff {x : Result α} {f : α → Result β} :
    Accepted (x >>= f) ↔ Accepted x ∧ ∀ a, x = .ok a → Accepted (f a) := by
  cases x with
  | ok a => simp
  | error cause => simp [Accepted]

@[simp] theorem map_iff {x : Result α} {f : α → β} : Accepted (f <$> x) ↔ Accepted x := by
  cases x <;> simp [Accepted]

theorem passed_on {r : Result α} {cause : Failure} (accepted : Accepted r)
    (failed : r = .error cause) : Accepted (.error cause : Result β) := by
  intro fault same
  obtain rfl := Except.error.inj same
  exact accepted fault failed

theorem mapM {f : α → Result β} {xs : List α} (each : ∀ x ∈ xs, Accepted (f x)) :
    Accepted (xs.mapM f) := by
  induction xs with
  | nil => exact ok []
  | cons x rest ih =>
    rw [List.forall_mem_cons] at each
    rw [List.mapM_cons]
    simp [each.1, ih each.2]

theorem forM {f : α → Result PUnit} {xs : List α} (each : ∀ x ∈ xs, Accepted (f x)) :
    Accepted (xs.forM f) := by
  induction xs with
  | nil => exact ok PUnit.unit
  | cons x rest ih =>
    rw [List.forall_mem_cons] at each
    exact bind_iff.mpr ⟨each.1, fun _ _ => ih each.2⟩

end Accepted

namespace Query

theorem accepted_member (operator : String) (actual : Option Json) (operand : Json) :
    Accepted (member operator actual operand) := by
  cases operand <;> simp [member]

theorem accepted_operatorHolds (actual : Option Json) (operand : Json) (operator : String) :
    Accepted (operatorHolds actual operand operator) := by
  unfold operatorHolds
  split <;> simp [accepted_member]

theorem accepted_operatorsHold (actual : Option Json) (o : Object) :
    Accepted (operatorsHold actual o) := by
  induction o with
  | nil => simp [operatorsHold]
  | cons e rest ih =>
    rw [operatorsHold]
    simp only [Accepted.bind_iff, accepted_operatorHolds, true_and]
    intro holds _
    split <;> simp [ih]

theorem accepted_fieldHolds (d : Document) (key : String) (condition : Json) :
    Accepted (fieldHolds d key condition) := by
  unfold fieldHolds conditionHolds
  split
  · simp
  · split <;> simp [accepted_operatorsHold]

theorem accepted_checkItems (operator : String) (items : List Json) :
    Accepted (checkItems operator items) := by
  unfold checkItems
  split
  · simp
  · split <;> simp

mutual

theorem accepted_holds (d : Document) : ∀ filter, Accepted (holds d filter)
  | [] => by simp [holds]
  | (key, condition) :: rest => by
    rw [holds]
    simp only [Accepted.bind_iff, accepted_clauseHolds d key condition, true_and]
    intro passed _
    split
    · exact accepted_holds d rest
    · simp

theorem accepted_clauseHolds (d : Document) (key : String) :
    ∀ condition, Accepted (clauseHolds d key condition)
  | .array items => by
    rw [clauseHolds]
    split
    · simp [accepted_checkItems, accepted_allHold d items]
    · split
      · simp [accepted_checkItems, accepted_anyHolds d items]
      · exact accepted_fieldHolds d key _
  | .null | .bool _ | .number _ | .string _ | .object _ => by
    simp only [clauseHolds]
    split
    · simp
    · exact accepted_fieldHolds d key _

theorem accepted_allHold (d : Document) : ∀ items, Accepted (allHold d items)
  | [] => by simp [allHold]
  | item :: rest => by
    rw [allHold]
    simp only [Accepted.bind_iff, accepted_itemHolds d item, true_and]
    intro passed _
    split
    · exact accepted_allHold d rest
    · simp

theorem accepted_anyHolds (d : Document) : ∀ items, Accepted (anyHolds d items)
  | [] => by simp [anyHolds]
  | item :: rest => by
    rw [anyHolds]
    simp only [Accepted.bind_iff, accepted_itemHolds d item, true_and]
    intro passed _
    split
    · simp
    · exact accepted_anyHolds d rest

theorem accepted_itemHolds (d : Document) : ∀ item, Accepted (itemHolds d item)
  | .object filter => by
    rw [itemHolds]
    exact accepted_holds d filter
  | .null | .bool _ | .number _ | .string _ | .array _ => by simp [itemHolds]

end

end Query

namespace Document

@[simp] theorem accepted_satisfies (d filter : Document) : Accepted (d.satisfies filter) :=
  Query.accepted_holds d filter

theorem accepted_selectFirst (filter : Document) (limit : Nat) (ds : List Document) :
    Accepted (selectFirst filter limit ds) := by
  induction ds generalizing limit with
  | nil => cases limit <;> simp [selectFirst]
  | cons d rest ih =>
    cases limit with
    | zero => simp [selectFirst]
    | succ limit =>
      rw [selectFirst]
      simp only [Accepted.bind_iff, accepted_satisfies, true_and]
      intro selected _
      split <;> simp [ih]

end Document

theorem Object.accepted_setPath (value : Json) (o : Object) (path : Path) :
    Accepted (o.setPath value path) := by
  fun_induction Object.setPath value o path with
  | case1 o => exact .ok o
  | case2 o field => exact .ok _
  | case3 o field rest long missing ih => simp [ih]
  | case4 o field rest long inner found ih => simp [ih]
  | case5 o field rest long v found other => exact .store _

namespace Update

theorem accepted_setAll (fields : Object) (d : Document) : Accepted (setAll fields d).1 := by
  induction fields generalizing d with
  | nil => exact .ok ()
  | cons e rest ih =>
    obtain ⟨path, value⟩ := e
    rw [setAll]
    split
    · exact .store .idChange
    · have placed := Object.accepted_setPath value d (Path.ofText path)
      split
      · exact ih _
      · next cause failed => exact placed.passed_on failed

theorem accepted_modify (modifier : String) (fields : Object) (d : Document) :
    Accepted (modify modifier fields d).1 := by
  unfold modify
  split
  · exact accepted_setAll fields d
  · split <;> simp

theorem accepted_applyAll (update : Object) (d : Document) : Accepted (applyAll update d).1 := by
  fun_induction applyAll update d with
  | case1 d => exact .ok ()
  | case2 modifier fields rest d d' modified ih => exact ih
  | case3 modifier fields rest d d' cause modified =>
    exact (accepted_modify modifier fields d).passed_on (congrArg Prod.fst modified)
  | case4 => exact .store _

theorem accepted_apply (update d : Document) : Accepted (apply update d).1 := by
  unfold apply
  split
  · exact .store .emptyUpdate
  · exact accepted_applyAll update d

end Update

namespace IndexSpec

theorem accepted_validateOptions (options : Object) : Accepted (validateOptions options) := by
  unfold validateOptions
  cases IndexKind.ofStoreName? (textOf options "kind") with
  | none => exact .store _
  | some kind =>
    simp only [Fallible.ok_bind]
    split
    · exact .store _
    split
    · exact .store _
    cases kind.buildOptions.find? (!isPositive options ·) with
    | some missing => exact .store _
    | none =>
      cases kind.other.buildOptions.find? (options.contains ·) with
      | some extra => exact .store _
      | none => exact .ok ()

theorem accepted_validate (spec : Document) : Accepted (validate spec) := by
  unfold validate
  simp only
  split
  · exact .store .specWithoutName
  split
  · split
    · split
      · exact accepted_validateOptions _
      · exact .store _
    · exact .ok ()
  · exact .store .specWithoutKey

theorem accepted_ofValues (values : List Json) : Accepted (ofValues values) := by
  refine Accepted.mapM fun v _ => ?_
  split <;> simp [accepted_validate]

end IndexSpec

namespace Catalogue

theorem accepted_add (catalogue : List Document) (spec : Document) :
    Accepted (add catalogue spec) := by
  unfold add
  simp only
  repeat' split
  all_goals simp

theorem accepted_addAll (specs catalogue : List Document) :
    Accepted (addAll specs catalogue).1 := by
  fun_induction addAll specs catalogue with
  | case1 catalogue => exact .ok ()
  | case2 spec rest catalogue extended added ih => exact ih
  | case3 spec rest catalogue cause refused => exact (accepted_add catalogue spec).passed_on refused

end Catalogue

namespace Search

theorem accepted_checkOptions (index : VectorIndex) (search : Object) :
    Accepted (checkOptions index search) :=
  Accepted.forM fun e _ => by split <;> simp

theorem accepted_query (index : VectorIndex) (search : Object) : Accepted (query index search) := by
  unfold query
  split
  · split <;> simp
  · exact .store .queryNotVector

theorem accepted_run (c : Collection) (stage : Json) : Accepted (run c stage) := by
  have request : Accepted (request stage) := by
    unfold Search.request
    split <;> simp
  have searched : Accepted (searched c) := by
    unfold Search.searched
    split <;> simp
  have path (index : VectorIndex) (search : Object) : Accepted (checkPath index search) := by
    simp only [checkPath]
    split <;> simp
  have count (search : Object) : Accepted (count search) := by
    unfold Search.count
    split <;> simp
  simp [run, request, searched, path, count, accepted_checkOptions, accepted_query]

end Search

namespace Projection

theorem accepted_value (row : Row) (field : String) (expression : Json) :
    Accepted (value row field expression) := by
  unfold value
  simp only
  repeat' split
  all_goals simp

theorem accepted_fields (row : Row) (spec : Object) (out : Document) :
    Accepted (fields row spec out) := by
  induction spec generalizing out with
  | nil => exact .ok out
  | cons e rest ih =>
    rw [fields]
    split
    · exact ih out
    · refine Accepted.bind_iff.mpr ⟨accepted_value row e.1 e.2, fun projected _ => ?_⟩
      cases projected <;> exact ih _

theorem accepted_apply (spec : Object) (row : Row) : Accepted (apply spec row) := by
  simp [apply, accepted_fields]

end Projection

namespace Pipeline

theorem accepted_selectRows (filter : Document) (rows : List Row) :
    Accepted (selectRows filter rows) := by
  induction rows with
  | nil => exact .ok []
  | cons row rest ih => simp [selectRows, ih]

theorem accepted_stage (c : Collection) (first : Bool) (rows : List Row) (name : String)
    (spec : Json) : Accepted (stage c first rows name spec) := by
  unfold stage
  split
  · split
    · exact Search.accepted_run c spec
    · exact .store _
  · split
    · exact Accepted.mapM fun row _ => Projection.accepted_apply _ row
    · exact .store _
  · split
    · exact accepted_selectRows _ rows
    · exact .store _
  · split <;> simp
  · exact .store _

theorem accepted_stages (c : Collection) (first : Bool) (pipeline : List Document)
    (rows : List Row) : Accepted (stages c first pipeline rows) := by
  fun_induction stages c first pipeline rows with
  | case1 => exact .ok _
  | case2 first name spec rest rows ih =>
    exact Accepted.bind_iff.mpr ⟨accepted_stage c first rows name spec, fun rows _ => ih rows⟩
  | case3 => exact .store _

theorem accepted_run (c : Collection) (pipeline : List Document) : Accepted (run c pipeline) := by
  simp [run, accepted_stages]

end Pipeline

namespace Database

theorem accepted_namedCollection (command : Document) (name : String) :
    Accepted (namedCollection command name) := by
  unfold namedCollection
  split
  · split <;> simp
  · exact .store _

theorem accepted_existing (db : Database) (name : String) : Accepted (db.existing name) := by
  unfold existing
  split <;> simp

theorem accepted_createIndexes (command : Document) (db : Database) :
    Accepted (createIndexes command db).1 := by
  unfold createIndexes
  have requested : Accepted (requestedSpecs command) := by
    unfold requestedSpecs
    refine Accepted.bind_iff.mpr ⟨accepted_namedCollection command _, fun name _ => ?_⟩
    split <;> simp [IndexSpec.accepted_ofValues]
  split
  · next cause refused => exact requested.passed_on refused
  · exact Accepted.map_iff.mpr (Catalogue.accepted_addAll _ _)

theorem accepted_runCommand (command : Document) (db : Database) :
    Accepted (runCommand command db).1 := by
  unfold runCommand
  split
  · exact accepted_createIndexes command db
  · simp [listIndexes, accepted_namedCollection, accepted_existing]
  · simp [statistics, accepted_namedCollection, accepted_existing]
  · unfold create
    split <;> simp
  · exact .ok _
  · exact .store _

theorem accepted_insertAll (name : String) (inserted : Nat) (ds : List Document) (db : Database) :
    Accepted (insertAll name inserted ds db).1 := by
  induction ds generalizing inserted db with
  | nil => exact .ok inserted
  | cons d rest ih =>
    rw [insertAll]
    simp only
    split
    · exact .store _
    · exact ih _ _

theorem accepted_updateFirst (filter change : Document) (ds : List Document) :
    Accepted (updateFirst filter change ds).1 := by
  induction ds with
  | nil => exact .ok _
  | cons d rest ih =>
    rw [updateFirst]
    split
    · next cause failed => exact (Document.accepted_satisfies d filter).passed_on failed
    · exact Accepted.map_iff.mpr (Update.accepted_apply change d)
    · exact ih

theorem accepted_deleteFirst (filter : Document) (ds : List Document) :
    Accepted (deleteFirst filter ds).1 := by
  induction ds with
  | nil => exact .ok 0
  | cons d rest ih =>
    rw [deleteFirst]
    split
    · next cause failed => exact (Document.accepted_satisfies d filter).passed_on failed
    · exact .ok 1
    · exact ih

theorem accepted_deleteSelected (filter : Document) (ds : List Document) :
    Accepted (deleteSelected filter ds) := by
  induction ds with
  | nil => exact .ok _
  | cons d rest ih =>
    rw [deleteSelected]
    refine Accepted.bind_iff.mpr ⟨Document.accepted_satisfies d filter, fun selected _ => ?_⟩
    exact Accepted.bind_iff.mpr ⟨ih, fun _ _ => .ok _⟩

theorem accepted_execute (c : Call) (db : Database) : Accepted (execute c db).1 := by
  cases c with
  | collectionNames | createCollection _ | dropCollection _ => exact .ok _
  | command command => exact accepted_runCommand command db
  | insert name ds => exact accepted_insertAll name 0 ds _
  | find name filter limit =>
    simp only [execute, find]
    split
    · exact .ok []
    · exact Document.accepted_selectFirst filter _ _
  | findOne name filter =>
    simp only [execute, findOne]
    split
    · exact .ok none
    · exact Accepted.map_iff.mpr (Document.accepted_selectFirst filter 1 _)
  | aggregate name pipeline => exact Pipeline.accepted_run _ pipeline
  | update name filter change =>
    simp only [execute, update]
    split
    · exact .ok _
    · exact accepted_updateFirst filter change _
  | deleteOne name filter =>
    simp only [execute, deleteOne]
    split
    · exact .ok 0
    · exact accepted_deleteFirst filter _
  | deleteMany name filter =>
    simp only [execute, deleteMany]
    split
    · exact .ok 0
    · have judged := accepted_deleteSelected filter
      split
      · exact .ok _
      · next cause failed => exact (judged _).passed_on failed

/-- A store, on line or not, refuses no call as invalid. -/
theorem accepted_perform (c : Call) (db : Database) :
    Accepted (DocumentStore.perform c db).1 := by
  change Accepted (answer c (arrive c db)).1
  unfold answer
  split
  · exact .store .unreachable
  · exact accepted_execute c _

end Database

end MemoryBank
