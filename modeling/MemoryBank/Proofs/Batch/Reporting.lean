import Mathlib.Data.List.Basic
import MemoryBank.Batch.Coordinator
import MemoryBank.Proofs.Fallible

set_option autoImplicit false

/-!
What a batch reports of its items: how they ended, or that the time was up for them, and how many of
them succeeded.
-/

namespace MemoryBank

variable {α : Type}

namespace Ending

def isValue : Ending α → Bool
  | value _ => true
  | _ => false

/-- The text a failed item is reported with. -/
def text? : Ending α → Option String
  | value _ => none
  | failure cause => some cause.message
  | panic (some message) => some ("panicked: " ++ message)
  | panic none => some "panicked: unknown panic"

variable {i : Nat} {e : Ending α}

@[simp] theorem index_report (i : Nat) (e : Ending α) : (e.report i).index = i := by
  rcases e with a | cause | (_ | message) <;> rfl

@[simp] theorem isOk_report (i : Nat) (e : Ending α) : (e.report i).isOk = e.isValue := by
  rcases e with a | cause | (_ | message) <;> rfl

theorem report_eq_succeeded {a : α} : e.report i = .succeeded i a ↔ e = .value a := by
  rcases e with b | cause | (_ | message) <;>
    simp [report, ItemResult.succeeded, ItemResult.failed]

theorem report_eq_failed {text : String} : e.report i = .failed i text ↔ e.text? = some text := by
  rcases e with b | cause | (_ | message) <;>
    simp [report, text?, ItemResult.succeeded, ItemResult.failed]

end Ending

namespace Job

/-- What is reported of an item: how it ended if that is `kept`, else that the time was up. -/
def reported (i : Nat) (job : Job α) (kept : Bool) : ItemResult α :=
  if kept then job.ending.report i else .failed i Coordinator.timedOut

variable {i : Nat} {job : Job α} {kept : Bool}

@[simp] theorem reported_true : job.reported i true = job.ending.report i := rfl

@[simp] theorem reported_false : job.reported i false = .failed i Coordinator.timedOut := rfl

@[simp] theorem index_reported : (job.reported i kept).index = i := by
  cases kept with
  | false => rfl
  | true => exact job.ending.index_report i

@[simp] theorem isOk_reported : (job.reported i kept).isOk = (kept && job.ending.isValue) := by
  cases kept with
  | false => rfl
  | true => exact job.ending.isOk_report i

theorem reported_eq_succeeded {a : α} :
    job.reported i kept = .succeeded i a ↔ kept = true ∧ job.ending = .value a := by
  cases kept with
  | false => simp [ItemResult.succeeded, ItemResult.failed]
  | true => simp [Ending.report_eq_succeeded]

theorem reported_eq_failed {text : String} :
    job.reported i kept = .failed i text ↔
      kept = true ∧ job.ending.text? = some text ∨ kept = false ∧ text = Coordinator.timedOut := by
  cases kept with
  | false => simp [ItemResult.failed, eq_comm]
  | true => simp [Ending.report_eq_failed]

def reports (jobs : List (Job α)) (kept : Nat → Bool) : List (ItemResult α) :=
  jobs.mapIdx fun i job => job.reported i (kept i)

variable {jobs : List (Job α)} {keeps keeps' : Nat → Bool}

theorem getElem?_reports :
    (reports jobs keeps)[i]? = jobs[i]?.map fun job => job.reported i (keeps i) :=
  List.getElem?_mapIdx

theorem reports_congr (agree : ∀ i < jobs.length, keeps i = keeps' i) :
    reports jobs keeps = reports jobs keeps' := by
  apply List.ext_getElem?
  intro i
  rw [getElem?_reports, getElem?_reports]
  cases here : jobs[i]? with
  | none => rfl
  | some job =>
    obtain ⟨inside, -⟩ := List.getElem?_eq_some_iff.mp here
    rw [agree i inside]

end Job

/-- The results of a batch, where `kept` says of which items it is reported how they ended. -/
structure Reports (jobs : List (Job α)) (kept : Nat → Bool) (results : List (ItemResult α)) :
    Prop where
  length : results.length = jobs.length
  index : ∀ (i : Nat) (x : ItemResult α), results[i]? = some x → x.index = i
  result : ∀ (i : Nat) (job : Job α), jobs[i]? = some job →
    results[i]? = some (job.reported i (kept i))
  value : ∀ (i : Nat) (job : Job α) (a : α), jobs[i]? = some job →
    (results[i]? = some (.succeeded i a) ↔ kept i = true ∧ job.ending = .value a)
  failure : ∀ (i : Nat) (job : Job α) (text : String), jobs[i]? = some job →
    (results[i]? = some (.failed i text) ↔
      kept i = true ∧ job.ending.text? = some text ∨ kept i = false ∧ text = "timed out")
  total : (BatchResponse.ofResults results).total = jobs.length
  counts : (BatchResponse.ofResults results).succeeded + (BatchResponse.ofResults results).failed =
    (BatchResponse.ofResults results).total
  succeeded : (BatchResponse.ofResults results).succeeded = results.countP (·.isOk)
  -- and these are the items that are kept and came to a value
  valued : results.countP (·.isOk) = jobs.zipIdx.countP fun x => kept x.2 && x.1.ending.isValue

namespace Reports

variable {jobs : List (Job α)} {kept : Nat → Bool} {results : List (ItemResult α)}

theorem of_reports (jobs : List (Job α)) (kept : Nat → Bool) :
    Reports jobs kept (Job.reports jobs kept) where
  length := List.length_mapIdx
  index i x found := by
    rw [Job.getElem?_reports] at found
    obtain ⟨job, -, rfl⟩ := Option.map_eq_some_iff.mp found
    exact Job.index_reported
  result i job item := by rw [Job.getElem?_reports, item, Option.map_some]
  value i job a item := by
    rw [Job.getElem?_reports, item, Option.map_some, Option.some.injEq]
    exact Job.reported_eq_succeeded
  failure i job text item := by
    rw [Job.getElem?_reports, item, Option.map_some, Option.some.injEq]
    exact Job.reported_eq_failed
  total := List.length_mapIdx
  counts := BatchResponse.succeeded_add_failed _
  succeeded := rfl
  valued := by
    rw [Job.reports, List.mapIdx_eq_zipIdx_map, List.countP_map]
    exact List.countP_congr fun x _ => by simp

theorem eq_reports (reports : Reports jobs kept results) : results = Job.reports jobs kept := by
  apply List.ext_getElem?
  intro i
  rw [Job.getElem?_reports]
  cases here : jobs[i]? with
  | none => exact List.getElem?_eq_none (reports.length ▸ List.getElem?_eq_none_iff.mp here)
  | some job => exact reports.result i job here

end Reports

/-- A response that gives each item its outcome, at the item's own place. -/
structure BatchResponse.Tells {β : Type} (batch : List β) (outcome : Nat → β → Result α)
    (response : BatchResponse α) : Prop where
  length : response.results.length = batch.length
  value : ∀ i b a, batch[i]? = some b → outcome i b = .ok a →
    response.results[i]? = some ⟨i, .ok, some a, none⟩
  failure : ∀ i b cause, batch[i]? = some b → outcome i b = .error cause →
    response.results[i]? = some ⟨i, .error, none, some cause.message⟩
  total : response.total = batch.length
  counts : response.succeeded + response.failed = response.total
  succeeded : response.succeeded = response.results.countP fun r => r.status == .ok

theorem BatchResponse.tells_of_reports {β : Type} {batch : List β} {outcome : Nat → β → Result α}
    {results : List (ItemResult α)}
    (reports : Reports (batch.mapIdx fun i b => ⟨none, .ofResult (outcome i b)⟩) (fun _ => true)
      results) : (ofResults results).Tells batch outcome where
  length := reports.length.trans List.length_mapIdx
  value i b a item came :=
    reports.result i ⟨none, .value a⟩ (by simp [item, came, Ending.ofResult])
  failure i b cause item came :=
    reports.result i ⟨none, .failure cause⟩ (by simp [item, came, Ending.ofResult])
  total := reports.total.trans List.length_mapIdx
  counts := reports.counts
  succeeded := reports.succeeded

theorem BatchResponse.Tells.of_value {β : Type} {batch : List β} {outcome : Nat → β → Result α}
    {response : BatchResponse α} (tells : response.Tells batch outcome) {i : Nat} {a : α}
    (told : response.results[i]? = some ⟨i, .ok, some a, none⟩) :
    ∃ b, batch[i]? = some b ∧ outcome i b = .ok a := by
  obtain ⟨inside, -⟩ := List.getElem?_eq_some_iff.mp told
  have item := List.getElem?_eq_getElem (tells.length ▸ inside)
  refine ⟨_, item, ?_⟩
  cases came : outcome i _ with
  | ok other =>
    have same := told.symm.trans (tells.value i _ other item came)
    simp only [Option.some.injEq, ItemResult.mk.injEq, true_and, and_true] at same
    rw [same]
  | error cause => simpa using told.symm.trans (tells.failure i _ cause item came)

namespace Coordinator

variable {c : Coordinator} {jobs : List (Job α)}

/-- Whether the item needs less time than the deadline allows. -/
def meets (c : Coordinator) (jobs : List (Job α)) (i : Nat) : Bool := jobs[i]?.any c.inTime

theorem meets_of_item {i : Nat} {job : Job α} (item : jobs[i]? = some job) :
    c.meets jobs i = c.inTime job := by
  rw [meets, item, Option.any_some]

theorem inTime_iff {job : Job α} : c.inTime job = true ↔
    ∀ limit delay, c.timeout = some limit → job.delay = some delay → delay < limit := by
  unfold inTime
  cases c.timeout with
  | none => simp
  | some limit =>
    cases job.delay with
    | none => simp
    | some delay => simp

theorem meets_of_unlimited (free : c.timeout = none) {i : Nat} (inside : i < jobs.length) :
    c.meets jobs i = true := by
  rw [meets_of_item (List.getElem?_eq_getElem inside), inTime, free]

theorem mem_completions {x : Completion α} :
    x ∈ c.completions jobs ↔
      ∃ job, jobs[x.index]? = some job ∧ c.meets jobs x.index = true ∧ x.ending = job.ending := by
  obtain ⟨i, ending⟩ := x
  simp only [completions, List.mem_filterMap, endingOrder, List.mem_mergeSort, Prod.exists,
    List.mem_zipIdx_iff_getElem?]
  constructor
  · rintro ⟨job, n, here, kept⟩
    by_cases due : c.inTime job = true <;> simp_all [meets]
  · rintro ⟨job, here, due, rfl⟩
    exact ⟨job, i, here, by simp [← meets_of_item here, due]⟩

/-- The order in which the items end is not seen in the results. -/
theorem gather_eq_reports {xs : List (Completion α)} {kept : Nat → Bool}
    (known : ∀ x, x ∈ xs ↔
      ∃ job, jobs[x.index]? = some job ∧ kept x.index = true ∧ x.ending = job.ending) :
    gather jobs.length timedOut xs = Job.reports jobs kept := by
  apply List.ext_getElem?
  intro i
  rw [Job.getElem?_reports, gather, List.getElem?_map]
  cases here : jobs[i]? with
  | none => simp [List.getElem?_eq_none_iff.mp here]
  | some job =>
    obtain ⟨inside, -⟩ := List.getElem?_eq_some_iff.mp here
    simp only [List.getElem?_range inside, Option.map_some]
    cases found : xs.find? (·.index == i) with
    | none =>
      have missed : kept i = false := Bool.eq_false_iff.mpr fun due => by
        have listed : (⟨i, job.ending⟩ : Completion α) ∈ xs := (known _).mpr ⟨job, here, due, rfl⟩
        simpa using List.find?_eq_none.mp found _ listed
      rw [missed, Job.reported_false]
    | some x =>
      obtain ⟨other, own, due, ending⟩ := (known x).mp (List.mem_of_find?_eq_some found)
      obtain rfl : x.index = i := by simpa using List.find?_some found
      obtain rfl : other = job := by simpa [here, eq_comm] using own
      simp only [due, Job.reported_true, ending]

theorem ended_in_time :
    (jobs.zipIdx.filterMap fun j => if c.inTime j.1 then some j.2 else none) =
      (List.range jobs.length).filter (c.meets jobs) := by
  have known : ∀ j ∈ jobs.zipIdx,
      (if c.inTime j.1 then some j.2 else none) = Option.guard (c.meets jobs) j.2 := by
    intro j member
    rw [Option.guard, meets_of_item (List.mem_zipIdx_iff_getElem?.mp member)]
  calc
    _ = (jobs.zipIdx.map Prod.snd).filterMap (Option.guard (c.meets jobs)) := by
      rw [List.filterMap_congr known, List.filterMap_map]
      rfl
    _ = _ := by rw [List.zipIdx_map_snd, List.filterMap_eq_filter, ← List.range_eq_range']

theorem run_of_fits (fits : jobs.length ≤ c.maxSize) : c.run jobs = .ok {
    results := Job.reports jobs (c.meets jobs)
    dispatched := List.range jobs.length
    endedAtReturn := (List.range jobs.length).filter (c.meets jobs)
    endedLater := List.range jobs.length } := by
  rw [run, checkSize, if_neg (Nat.not_lt.mpr fits), gather_eq_reports fun _ => mem_completions,
    ended_in_time]
  rfl

theorem run_of_exceeds (exceeds : c.maxSize < jobs.length) :
    c.run jobs = .error (.validation (.batchTooLarge jobs.length c.maxSize)) := by
  rw [run, checkSize, if_pos exceeds]
  rfl

end Coordinator

end MemoryBank
