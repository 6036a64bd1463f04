import MemoryBank.Proofs.Index.Sharing
import MemoryBank.Proofs.Program.Interference

set_option autoImplicit false

/-!
Callers that see to the index of a collection at the same time, one step of one and then one of
another. They may find the index missing, made by another caller or there from the start; in the end
they agree on the verdict that was recorded first, and the collection has one index.
-/

namespace MemoryBank

namespace IndexSpec

theorem validateOptions_eq_ok {options : Object} (kind : IndexKind) (metric : Metric)
    (named : textOf options "kind" = kind.storeName)
    (sized : isPositive options "dimensions" = true)
    (measured : textOf options "similarity" = metric.storeName)
    (own : ∀ option ∈ kind.buildOptions, isPositive options option = true)
    (foreign : ∀ option ∈ kind.other.buildOptions, options.contains option = false) :
    validateOptions options = .ok () := by
  have complete : kind.buildOptions.find? (!isPositive options ·) = none := by
    rw [List.find?_eq_none]
    exact fun option member => by simp [own option member]
  have apart : kind.other.buildOptions.find? (options.contains ·) = none := by
    rw [List.find?_eq_none]
    exact fun option member => by simp [foreign option member]
  unfold validateOptions
  simp only [named, sized, measured, IndexKind.ofStoreName?_storeName,
    Metric.ofStoreName?_storeName, Fallible.ok_bind, complete, apart]
  rfl

theorem isPositive_of_get? {options : Object} {name : String} {n : Nat}
    (entry : options.get? name = some (.ofNat n)) (word : 0 < n ∧ n < pow2 32) :
    isPositive options name = true := by
  have p32 : pow2 32 = 4294967296 := rfl
  have p64 : pow2 64 = 18446744073709551616 := rfl
  have read : (Json.ofNat n).nat? = some n := Json.nat?_ofNat.mpr ⟨by omega, rfl⟩
  rw [isPositive, entry, Option.bind_some, read]
  exact decide_eq_true word.1

end IndexSpec

namespace IndexDescriptor

/-- All numbers of the descriptor are positive words. -/
def Sized (d : IndexDescriptor) : Prop :=
  (0 < d.dimensions ∧ d.dimensions < pow2 32) ∧
    match d.params with
    | .diskann maxDegree listSize =>
        (0 < maxDegree ∧ maxDegree < pow2 32) ∧ 0 < listSize ∧ listSize < pow2 32
    | .hnsw connections breadth =>
        (0 < connections ∧ connections < pow2 32) ∧ 0 < breadth ∧ breadth < pow2 32

theorem validate_spec_of_sized {d : IndexDescriptor} (named : d.name.isEmpty = false)
    (sized : d.Sized) : IndexSpec.validate d.spec = .ok () := by
  rw [validate_spec named]
  obtain ⟨name, dimensions, metric, params⟩ := d
  cases params with
  | diskann maxDegree listSize =>
    obtain ⟨dimensions, degree, size⟩ := sized
    refine IndexSpec.validateOptions_eq_ok .diskann metric rfl
      (IndexSpec.isPositive_of_get? rfl dimensions) rfl ?_ ?_
    · simp only [IndexKind.buildOptions, List.forall_mem_cons]
      exact ⟨IndexSpec.isPositive_of_get? rfl degree, IndexSpec.isPositive_of_get? rfl size, nofun⟩
    · simp only [IndexKind.other, IndexKind.buildOptions, List.forall_mem_cons]
      exact ⟨rfl, rfl, nofun⟩
  | hnsw connections breadth =>
    obtain ⟨dimensions, linked, broad⟩ := sized
    refine IndexSpec.validateOptions_eq_ok .hnsw metric rfl
      (IndexSpec.isPositive_of_get? rfl dimensions) rfl ?_ ?_
    · simp only [IndexKind.buildOptions, List.forall_mem_cons]
      exact ⟨IndexSpec.isPositive_of_get? rfl linked, IndexSpec.isPositive_of_get? rfl broad, nofun⟩
    · simp only [IndexKind.other, IndexKind.buildOptions, List.forall_mem_cons]
      exact ⟨rfl, rfl, nofun⟩

theorem same_spec (d : IndexDescriptor) : d.spec.same d.spec = true := by
  obtain ⟨name, dimensions, metric, params⟩ := d
  cases params <;> simp [Object.same, Json.same, Json.sameEntries, Number.same, Json.ofNat,
    Object.get?_cons, spec, buildOptions, kind, IndexParams.kind, vectorOptionsKey, vectorPath,
    vectorMark]

end IndexDescriptor

namespace Database

variable {db : Database} {name : String} {d : IndexDescriptor}

/-- Making an index goes through if it is the first, or the same as the only one there is. -/
theorem perform_createCommand (online : db.offline = false) (named : name.isEmpty = false)
    (valid : IndexSpec.validate d.spec = .ok ())
    (alone : db.indexes name = [d.spec] ∨ db.indexes name = []) :
    ∃ reply, (DocumentStore.perform (.command (d.createCommand name)) db).1 = .ok reply ∧
      (DocumentStore.perform (.command (d.createCommand name)) db).2.indexes name = [d.spec] := by
  have added : Catalogue.addAll [d.spec] (db.indexes name) = (.ok (), [d.spec]) := by
    rcases alone with there | bare
    · have found : (d.spec.get? "name" == d.spec.get? "name") = true :=
        beq_self_eq_true (some d.name)
      simp [there, Catalogue.addAll, Catalogue.add, found, d.same_spec]
    · rw [bare]
      rfl
  have here : ((arrive (.command (d.createCommand name)) db).opened name).indexes =
      db.indexes name := rfl
  rw [perform_of_online online]
  change ∃ reply, (createIndexes (d.createCommand name) (arrive _ db)).1 = .ok reply ∧
    (createIndexes (d.createCommand name) (arrive _ db)).2.indexes name = [d.spec]
  unfold createIndexes
  rw [requestedSpecs_createCommand, named, valid]
  simp only [Bool.false_eq_true, if_false, Fallible.ok_map, here, added, indexes_put, if_true]
  exact ⟨_, rfl, trivial⟩

end Database

namespace Upkeep

/-- The collection has this one index or, if it was not there from the start, none yet; what is
remembered of it is right. -/
structure Contested (name : String) (index : Document) (there : Prop) (w : World Database) :
    Prop where
  online : w.store.offline = false
  catalogue : w.store.indexes name = [index] ∨ w.store.indexes name = [] ∧ ¬there
  verified : ∀ status, w.verdicts.get? name = some status →
    w.store.indexes name = [index] ∧ IndexSpec.Describes index status.effective

/-- What has been made or recorded stays; an index that was there is not asked for again. -/
structure Onward (name : String) (index : Document) (there : Prop) (w w' : World Database) :
    Prop where
  catalogue : w.store.indexes name = [index] → w'.store.indexes name = [index]
  verdict : ∀ status, w.verdicts.get? name = some status → w'.verdicts.get? name = some status
  asked : there → w'.store.asked name = w.store.asked name

def contest (name : String) (index : Document) (there : Prop) : Rule Database where
  Holds := Contested name index there
  Allows := Onward name index there
  refl _ := ⟨id, fun _ => id, fun _ => rfl⟩
  trans first next := ⟨next.catalogue ∘ first.catalogue,
    fun status => next.verdict status ∘ first.verdict status,
    fun there => (next.asked there).trans (first.asked there)⟩

section Contest

variable {name : String} {index : Document} {there : Prop} {w : World Database}

theorem Contested.of_same (contested : Contested name index there w) {w' : World Database}
    (same : w.Same name w') : (contest name index there).Leads w w' where
  holds :=
    { online := same.online.trans contested.online
      catalogue := same.indexes ▸ contested.catalogue
      verified := same.indexes ▸ same.verdict ▸ contested.verified }
  allows := ⟨same.indexes.trans, fun _ => same.verdict.trans, fun _ => same.asked⟩

theorem succeeds_verdict (w : World Database) :
    (Task.verdict name).Succeeds (contest name index there)
      (fun known w => ∀ status, known = some status → w.verdicts.get? name = some status) w :=
  fun _ leads => ⟨.refl leads.holds, fun _ further => ⟨_, rfl, further.allows.verdict⟩⟩

theorem succeeds_inspect (named : name.isEmpty = false)
    (valid : IndexSpec.validate index = .ok ()) (marked : IndexSpec.onVectors index = true)
    (w : World Database) :
    (inspect name).Succeeds (contest name index there) (fun observed w =>
      match observed with
      | none => ¬there
      | some o => w.store.indexes name = [index] ∧
          ∀ kind, IndexSpec.Describes index (IndexStatus.judge kind o).effective) w := by
  rw [Task.Succeeds, inspect_eq]
  intro w leads
  have looked := leads.holds.of_same (aside_inspect name name w)
  have answered := congrArg Prod.fst (run_inspect_online leads.holds.online name)
  rw [run_inspect] at looked
  rw [run_inspect_fst, named] at answered
  refine ⟨looked, fun w' further => ⟨_, answered, ?_⟩⟩
  rw [Database.reported]
  rcases leads.holds.catalogue with here | ⟨bare, absent⟩
  · obtain ⟨o, seen⟩ := ObservedIndex.exists_ofSpec? marked
    rw [here, List.findSome?_singleton, seen]
    exact ⟨(looked.trans further).allows.catalogue here, IndexSpec.describes_judge valid seen⟩
  · rw [bare]
    exact absent

theorem succeeds_create {d : IndexDescriptor} (named : name.isEmpty = false)
    (valid : IndexSpec.validate d.spec = .ok ()) (absent : ¬there) (w : World Database) :
    (Task.call (.command (d.createCommand name))).Succeeds (contest name d.spec there)
      (fun _ w => w.store.indexes name = [d.spec]) w := by
  intro w leads
  -- another caller may have made the index by now, and then it is the same
  have alone := leads.holds.catalogue.imp_right And.left
  obtain ⟨reply, passed, made⟩ :=
    Database.perform_createCommand leads.holds.online named valid alone
  refine ⟨⟨⟨?_, .inl made, fun status stands => ?_⟩, fun _ => made, fun _ => id, fun there =>
    absurd there absent⟩, fun w' further => ⟨reply, passed, further.allows.catalogue made⟩⟩
  · exact (Database.perform_offline _ w.store).trans leads.holds.online
  · exact ⟨made, (leads.holds.verified status stands).2⟩

theorem succeeds_remember {status : IndexStatus} (here : w.store.indexes name = [index])
    (right : IndexSpec.Describes index status.effective) :
    (Task.remember name status).Succeeds (contest name index there)
      (fun standing w => w.verdicts.get? name = some standing) w := by
  intro w leads
  have here := leads.allows.catalogue here
  simp only [Step.perform]
  cases stands : w.verdicts.get? name with
  | some standing =>
    exact ⟨.refl leads.holds, fun w' further => ⟨standing, rfl, further.allows.verdict _ stands⟩⟩
  | none =>
    have recorded : (w.verdicts.insert name status).get? name = some status := by simp
    refine ⟨⟨⟨leads.holds.online, .inl here, fun other known => ⟨here, ?_⟩⟩, id, fun _ known => ?_,
      fun _ => rfl⟩, fun w' further => ⟨status, rfl, further.allows.verdict _ recorded⟩⟩
    · exact Option.some.inj (recorded.symm.trans known) ▸ right
    · cases stands.symm.trans known

/-- Whatever the other callers do, a caller ends with the verdict that stands. -/
theorem succeeds_ensure {d : IndexDescriptor} (named : name.isEmpty = false)
    (valid : IndexSpec.validate index = .ok ()) (marked : IndexSpec.onVectors index = true)
    (own : ¬there → index = d.spec) (w : World Database) :
    (ensure name d).Succeeds (contest name index there)
      (fun status w => w.verdicts.get? name = some status) w := by
  refine (succeeds_verdict w).bind fun known w leads looked => ?_
  cases known with
  | some status =>
    exact fun w' further => ⟨status, rfl, further.allows.verdict _ (looked status rfl)⟩
  | none =>
    refine (succeeds_inspect named valid marked w).bind fun observed w leads seen => ?_
    refine Task.Succeeds.bind (M := fun status w => w.store.indexes name = [index] ∧
      IndexSpec.Describes index status.effective) ?_ fun status w leads settled =>
        succeeds_remember settled.1 settled.2
    cases observed with
    | some o =>
      exact fun w' further => ⟨_, rfl, further.allows.catalogue seen.1, seen.2 d.kind⟩
    | none =>
      obtain rfl := own seen
      exact (succeeds_create named valid seen w).bind fun _ w leads made w' further =>
        ⟨_, rfl, further.allows.catalogue made, IndexSpec.describes_spec d⟩

theorem within_ensure (name : String) (d : IndexDescriptor) :
    (ExceptT.run (ensure name d)).Within 4 := by
  refine ⟨by decide, fun known => ?_⟩
  cases known with
  | some status => exact trivial
  | none =>
    change Program.Within ((ExceptT.run (inspect name)).bind (ExceptT.bindCont fun observed => do
      let status ← settle name d observed
      Task.remember name status)) 3
    rw [inspect_eq]
    refine ⟨by decide, fun listed => ?_⟩
    change Program.Within (ExceptT.bindCont _ (inspected listed)) 2
    rcases inspected listed with cause | _ | o
    · exact trivial
    · refine ⟨by decide, fun created => ?_⟩
      cases created with
      | error cause => exact trivial
      | ok reply => exact ⟨by decide, fun _ => trivial⟩
    · exact ⟨by decide, fun _ => trivial⟩

end Contest

end Upkeep

namespace Pool

variable {α : Type} {name : String} {rule : Rule Database} {Q : α → World Database → Prop}
  {ps : List (Program α)} {w : World Database}

/-- Whose turns they were in which a verdict was recorded where there was none. -/
def recorders (name : String) : List Nat → List (Program α) → World Database → List Nat
  | [], _, _ => []
  | n :: schedule, ps, w =>
      let (ps', w') := advance n ps w
      let later := recorders name schedule ps' w'
      if (w.verdicts.get? name).isNone && (w'.verdicts.get? name).isSome then n :: later else later

section Recorders

variable (holds : rule.Holds w) (abide : ∀ p ∈ ps, p.Abides rule Q w)
  (keeps : ∀ w w', rule.Allows w w' → ∀ status,
    w.verdicts.get? name = some status → w'.verdicts.get? name = some status)
  (schedule : List Nat)
include holds abide keeps

theorem recorders_of_standing {status : IndexStatus}
    (stands : w.verdicts.get? name = some status) : recorders name schedule ps w = [] := by
  induction schedule generalizing ps w with
  | nil => rfl
  | cons n schedule ih =>
    obtain ⟨leads, after⟩ := abides_advance holds abide n
    simp [recorders, stands, ih leads.holds after (keeps _ _ leads.allows _ stands)]

/-- A verdict that is never forgotten is recorded once at most. -/
theorem recorders_of_unknown (unknown : w.verdicts.get? name = none) :
    (recorders name schedule ps w = [] ∧ (follow schedule ps w).2.verdicts.get? name = none) ∨
      ∃ i < ps.length, recorders name schedule ps w = [i] := by
  induction schedule generalizing ps w with
  | nil => exact .inl ⟨rfl, unknown⟩
  | cons n schedule ih =>
    obtain ⟨leads, after⟩ := abides_advance holds abide n
    cases known : (advance n ps w).2.verdicts.get? name with
    | none =>
      rw [← length_advance n ps w]
      simpa [recorders, unknown, known, follow] using ih leads.holds after known
    | some status =>
      have once := recorders_of_standing leads.holds after keeps schedule known
      refine .inr ⟨n, Nat.lt_of_not_le fun beyond => ?_, by simp [recorders, unknown, known, once]⟩
      -- a turn of nobody changes nothing
      rw [advance_eq, List.getElem?_eq_none beyond, unknown] at known
      cases known

end Recorders

end Pool

namespace Upkeep

def ensuring (callers : Nat) (name : String) (d : IndexDescriptor) :
    List (Program (Result IndexStatus)) :=
  List.replicate callers (ExceptT.run (ensure name d))

section Ensuring

variable {name : String} {d : IndexDescriptor} {w : World Database}

theorem abides_ensuring {index : Document} {there : Prop} (named : name.isEmpty = false)
    (valid : IndexSpec.validate index = .ok ()) (marked : IndexSpec.onVectors index = true)
    (own : ¬there → index = d.spec) (callers : Nat) (w : World Database) :
    ∀ p ∈ ensuring callers name d, p.Abides (contest name index there)
      (fun r w => ∃ status, r = .ok status ∧ w.verdicts.get? name = some status) w := by
  intro p member
  obtain rfl := List.eq_of_mem_replicate member
  exact succeeds_ensure named valid marked own w

/-- Callers that see to the same index, of which nothing is remembered, each end within four steps
and with the same verdict, whatever the schedule. It stands, one of them has recorded it, the
collection has one index and the verdict tells of it; an index that was there is not asked for.
Where there is none yet, the descriptor has to have a name: the store refuses an index without
one. -/
theorem concurrent_ensures_agree (online : w.store.offline = false) (named : name.isEmpty = false)
    (unknown : w.verdicts.get? name = none)
    (start : w.store.indexes name = [] ∧ d.name.isEmpty = false ∧ d.Sized ∨
      ∃ index, w.store.indexes name = [index] ∧ IndexSpec.validate index = .ok () ∧
        IndexSpec.onVectors index = true)
    {callers : Nat} (anyone : 0 < callers) (schedule : List Nat) :
    (∀ i < callers, 4 ≤ schedule.count i →
      ∃ r, (Pool.follow schedule (ensuring callers name d) w).1[i]? = some (.done r)) ∧
    ((∀ p ∈ (Pool.follow schedule (ensuring callers name d) w).1, p.result?.isSome = true) →
      ∃ status index,
        (Pool.follow schedule (ensuring callers name d) w).1.map Program.result? =
          List.replicate callers (some (.ok status)) ∧
        (Pool.follow schedule (ensuring callers name d) w).2.verdicts.get? name = some status ∧
        (∃ i < callers, Pool.recorders name schedule (ensuring callers name d) w = [i]) ∧
        (Pool.follow schedule (ensuring callers name d) w).2.store.indexes name = [index] ∧
        IndexSpec.Describes index status.effective ∧
        (w.store.indexes name ≠ [] →
          (Pool.follow schedule (ensuring callers name d) w).2.store.asked name =
            w.store.asked name)) := by
  constructor
  · intro i among turns
    have here : (ensuring callers name d)[i]? = some (ExceptT.run (ensure name d)) := by
      rw [ensuring, List.getElem?_replicate, if_pos among]
    exact Pool.done_of_turns here (within_ensure name d) turns
  intro ended
  -- the index that is there, or the one that is going to be
  obtain ⟨index, valid, marked, catalogue, own⟩ : ∃ index,
      IndexSpec.validate index = .ok () ∧ IndexSpec.onVectors index = true ∧
        (w.store.indexes name = [index] ∨ w.store.indexes name = [] ∧ ¬w.store.indexes name ≠ []) ∧
          (¬w.store.indexes name ≠ [] → index = d.spec) := by
    rcases start with ⟨bare, ownName, sized⟩ | ⟨index, here, valid, marked⟩
    · exact ⟨d.spec, d.validate_spec_of_sized ownName sized, rfl, .inr ⟨bare, by simp [bare]⟩,
        fun _ => rfl⟩
    · exact ⟨index, valid, marked, .inl here, by simp [here]⟩
  have contested : Contested name index (w.store.indexes name ≠ []) w :=
    ⟨online, catalogue, fun _ known => nomatch unknown.symm.trans known⟩
  have abide := abides_ensuring named valid marked own callers w
  obtain ⟨leads, after⟩ := Pool.abides_follow contested abide schedule
  have agreed (p) (member : p ∈ (Pool.follow schedule (ensuring callers name d) w).1) :
      ∃ status, p.result? = some (.ok status) ∧
        (Pool.follow schedule (ensuring callers name d) w).2.verdicts.get? name = some status := by
    obtain ⟨r, done⟩ := Option.isSome_iff_exists.mp (ended p member)
    obtain rfl := Program.eq_done_of_result? done
    obtain ⟨status, rfl, stands⟩ := after _ member _ (.refl leads.holds)
    exact ⟨status, rfl, stands⟩
  have count : (Pool.follow schedule (ensuring callers name d) w).1.length = callers :=
    (Pool.length_follow ..).trans List.length_replicate
  obtain ⟨first, member⟩ := List.exists_mem_of_length_pos (count ▸ anyone)
  obtain ⟨status, -, stands⟩ := agreed first member
  obtain ⟨carries, right⟩ := leads.holds.verified status stands
  refine ⟨status, index, ?_, stands, ?_, carries, right, leads.allows.asked⟩
  · refine List.eq_replicate_iff.mpr ⟨by rw [List.length_map, count], fun r shown => ?_⟩
    obtain ⟨p, member, rfl⟩ := List.mem_map.mp shown
    obtain ⟨other, result, known⟩ := agreed p member
    rw [result, Option.some.inj (stands.symm.trans known)]
  · rcases Pool.recorders_of_unknown contested abide (fun _ _ allows => allows.verdict) schedule
      unknown with ⟨-, none⟩ | ⟨i, among, once⟩
    · cases none.symm.trans stands
    · exact ⟨i, by simpa [ensuring] using among, once⟩

/-- Both callers find no index and ask for it before either of them records a verdict. -/
theorem two_ensures_agree : ∃ status index,
    (Pool.follow [0, 1, 0, 1, 0, 1, 1, 0] (ensuring 2 "memories" (.forCollection "memories"
      .diskann 3)) ⟨Database.empty, .empty⟩).1.map Program.result? =
        [some (.ok status), some (.ok status)] ∧
    (Pool.follow [0, 1, 0, 1, 0, 1, 1, 0] (ensuring 2 "memories" (.forCollection "memories"
      .diskann 3)) ⟨Database.empty, .empty⟩).2.store.indexes "memories" = [index] ∧
    Pool.recorders "memories" [0, 1, 0, 1, 0, 1, 1, 0] (ensuring 2 "memories"
      (.forCollection "memories" .diskann 3)) ⟨Database.empty, .empty⟩ = [1] := by
  have sized : (IndexDescriptor.forCollection "memories" .diskann 3).Sized :=
    ⟨⟨by decide, by decide +kernel⟩, ⟨by decide, by decide +kernel⟩, by decide, by decide +kernel⟩
  have bare : Database.empty.indexes "memories" = [] := rfl
  obtain ⟨-, agree⟩ := concurrent_ensures_agree (w := ⟨Database.empty, .empty⟩) rfl
    (show "memories".isEmpty = false by decide) rfl (.inl ⟨bare, by decide, sized⟩)
    (show 0 < 2 by decide) [0, 1, 0, 1, 0, 1, 1, 0]
  obtain ⟨status, index, results, -, -, carries, -⟩ := agree (by decide +kernel)
  exact ⟨status, index, results, carries, by decide +kernel⟩

end Ensuring

end Upkeep

end MemoryBank
