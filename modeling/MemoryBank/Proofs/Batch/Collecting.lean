import Mathlib.Data.List.TakeWhile
import MemoryBank.Proofs.Batch.Reporting

set_option autoImplicit false

/-!
How a batch is worked off: items are dispatched one after another, their tasks end at any time and
in any order, and what has ended is collected into slots until nothing runs, or until the deadline
has passed and nothing that has ended is left to collect. What is reported of an item is said by
whether its task had ended before the answer.
-/

namespace MemoryBank

variable {α : Type}

/-- A batch on its way: how many items are dispatched, the tasks that run, those that have ended and
are not collected yet, a slot for each item, whether the deadline has passed, and the answer once it
is given. -/
structure Gathering (α : Type) where
  called : Nat
  running : List Nat
  ended : List Nat
  slots : List (Option (ItemResult α))
  struck : Bool
  answer : Option (Result (List (ItemResult α)))

namespace Gathering

inductive Event
  | called (i : Nat)
  | ended (i : Nat)
  -- the deadline passes
  | struck
  | collected (i : Nat)
  | answered
  deriving DecidableEq

variable {c : Coordinator} {jobs : List (Job α)} {s s' : Gathering α} {e : Event}
  {events : List Event}

def start (c : Coordinator) (jobs : List (Job α)) : Gathering α where
  called := 0
  running := []
  ended := []
  slots := List.replicate jobs.length none
  struck := false
  answer := match c.checkSize jobs.length with
    | .ok () => none
    | .error cause => some (.error cause)

def fill (rest : String) (slots : List (Option (ItemResult α))) : List (ItemResult α) :=
  slots.mapIdx fun i slot => slot.getD (.failed i rest)

/-- What can happen next. A task may end at any moment, before and after the deadline and after the
answer. The collector looks for a task that has ended before it looks at the deadline, so it only
gives up where none is left to collect. -/
inductive Step (c : Coordinator) (jobs : List (Job α)) : Gathering α → Event → Gathering α → Prop
  | dispatch {s : Gathering α} (waits : s.answer = none) (more : s.called < jobs.length) :
      Step c jobs s (.called s.called)
        { s with called := s.called + 1, running := s.running ++ [s.called] }
  | finish {s : Gathering α} {i : Nat} (runs : i ∈ s.running) :
      Step c jobs s (.ended i) { s with running := s.running.erase i, ended := s.ended ++ [i] }
  | strike {s : Gathering α} (waits : s.answer = none) (all : s.called = jobs.length)
      (limited : c.timeout ≠ none) (ahead : s.struck = false) :
      Step c jobs s .struck { s with struck := true }
  | collect {s : Gathering α} {i : Nat} {job : Job α} (item : jobs[i]? = some job)
      (waits : s.answer = none) (all : s.called = jobs.length) (through : i ∈ s.ended) :
      Step c jobs s (.collected i) { s with
        ended := s.ended.erase i, slots := s.slots.set i (some (job.ending.report i)) }
  | expire {s : Gathering α} (waits : s.answer = none) (past : s.struck = true)
      (collected : s.ended = []) (unfinished : s.running ≠ []) :
      Step c jobs s .answered
        { s with answer := some (.ok (fill Coordinator.timedOut s.slots)) }
  | close {s : Gathering α} (waits : s.answer = none) (all : s.called = jobs.length)
      (collected : s.ended = []) (finished : s.running = []) :
      Step c jobs s .answered { s with answer := some (.ok (fill "aborted" s.slots)) }

/-- What has happened so far, and where that leads. -/
inductive Run (c : Coordinator) (jobs : List (Job α)) : List Event → Gathering α → Prop
  | start : Run c jobs [] (start c jobs)
  | step {events : List Event} {s s' : Gathering α} {e : Event} (run : Run c jobs events s)
      (step : Step c jobs s e s') : Run c jobs (events ++ [e]) s'

namespace Event

def call? : Event → Option Nat
  | called i => some i
  | _ => none

def calls (events : List Event) : List Nat := events.filterMap call?

theorem calls_append (events : List Event) (e : Event) :
    calls (events ++ [e]) = calls events ++ e.call?.toList := by
  rw [calls, List.filterMap_append]
  cases e <;> rfl

/-- What has happened until this. -/
def before (mark : Event) (events : List Event) : List Event := events.takeWhile (· != mark)

variable {mark : Event}

theorem before_append_dropWhile (mark : Event) (events : List Event) :
    before mark events ++ events.dropWhile (· != mark) = events :=
  List.takeWhile_append_dropWhile

theorem before_append_of_mem (present : mark ∈ events) (later : List Event) :
    before mark (events ++ later) = before mark events := by
  rw [before, List.takeWhile_append, if_neg, before]
  intro same
  have whole := (List.takeWhile_prefix _).eq_of_length same
  simpa using List.takeWhile_eq_self_iff.mp whole _ present

theorem before_append_of_not_mem (absent : mark ∉ events) (later : List Event) :
    before mark (events ++ later) = events ++ before mark later :=
  List.takeWhile_append_of_pos fun _ member => bne_iff_ne.mpr fun same => absent (same ▸ member)

theorem before_of_not_mem (absent : mark ∉ events) : before mark events = events := by
  simpa [before] using before_append_of_not_mem absent []

theorem before_append_self (absent : mark ∉ events) : before mark (events ++ [mark]) = events := by
  simpa [before] using before_append_of_not_mem absent [mark]

theorem mem_before_append {later : List Event} (member : e ∈ before mark events) :
    e ∈ before mark (events ++ later) := by
  by_cases present : mark ∈ events
  · rwa [before_append_of_mem present]
  · rw [before_append_of_not_mem present]
    exact List.mem_append_left _ (before_of_not_mem present ▸ member)

theorem mem_of_mem_before (member : e ∈ before mark events) : e ∈ events :=
  (List.takeWhile_prefix _).mem member

end Event

open Gathering.Event (before)

def endedBefore (mark : Event) (events : List Event) (i : Nat) : Bool :=
  (before mark events).contains (.ended i)

/-- The items whose tasks ended before the answer, or so far. -/
abbrev caught : List Event → Nat → Bool := endedBefore .answered

/-- The items whose tasks ended before the deadline, or so far. -/
abbrev timely : List Event → Nat → Bool := endedBefore .struck

/-- At the deadline the answer is given at once: no task ends in between. That is up to the clock
and the scheduler, which may well let a task end then before the collector is woken. -/
def Punctual (events : List Event) : Prop :=
  ∀ i, .ended i ∉ (before .answered events).dropWhile (· != .struck)

theorem endedBefore_iff {mark : Event} {i : Nat} :
    endedBefore mark events i = true ↔ .ended i ∈ before mark events :=
  List.contains_iff_mem

structure Answered (c : Coordinator) (jobs : List (Job α)) (events : List Event)
    (s : Gathering α) : Prop where
  all : s.called = jobs.length
  value : s.answer = some (.ok (Job.reports jobs (caught events)))
  cause : .struck ∈ before .answered events ∧ c.timeout ≠ none ∨
    ∀ i < jobs.length, .ended i ∈ before .answered events

/-- What is behind the answer does not matter to it. -/
theorem Answered.behind (answered : Answered c jobs events s) (given : .answered ∈ events)
    (e : Event) (running ended : List Nat) :
    Answered c jobs (events ++ [e]) { s with running := running, ended := ended } where
  all := answered.all
  value := by
    have kept : caught (events ++ [e]) = caught events := by
      funext i
      simp only [caught, endedBefore, Event.before_append_of_mem given]
    rw [kept]
    exact answered.value
  cause := by
    rw [Event.before_append_of_mem given]
    exact answered.cause

structure Sound (c : Coordinator) (jobs : List (Job α)) (events : List Event)
    (s : Gathering α) : Prop where
  calls : Event.calls events = List.range s.called
  bound : s.called ≤ jobs.length
  slots : s.slots.length = jobs.length
  distinct : s.running.Nodup
  running : ∀ i, i ∈ s.running ↔ i < s.called ∧ .ended i ∉ events
  ended : ∀ i, .ended i ∈ events → i < s.called
  through : ∀ i ∈ s.ended, .ended i ∈ events
  -- a task that has ended is never lost on its way to its slot
  slot : ∀ i job, jobs[i]? = some job →
    s.slots[i]? = some none ∧ (.ended i ∈ events → i ∈ s.ended) ∨
      s.slots[i]? = some (some (job.ending.report i)) ∧ .ended i ∈ events
  struck : .struck ∈ events ↔ s.struck = true
  limited : s.struck = true → s.called = jobs.length ∧ c.timeout ≠ none
  waits : .answered ∉ events → s.answer = none
  answered : .answered ∈ events → Answered c jobs events s

theorem start_waits (fits : jobs.length ≤ c.maxSize) : (start c jobs).answer = none := by
  simp [start, Coordinator.checkSize, Nat.not_lt.mpr fits]

theorem sound_start (fits : jobs.length ≤ c.maxSize) : Sound c jobs [] (start c jobs) where
  calls := rfl
  bound := Nat.zero_le _
  slots := List.length_replicate
  distinct := List.nodup_nil
  running i := by simp [start]
  ended i := nofun
  through i := nofun
  slot i job item := by
    obtain ⟨inside, -⟩ := List.getElem?_eq_some_iff.mp item
    simp [start, inside]
  struck := by simp [start]
  limited := nofun
  waits _ := start_waits fits
  answered := nofun

namespace Sound

variable {rest : String}

theorem absent (sound : Sound c jobs events s) (waits : s.answer = none) : .answered ∉ events :=
  fun present => by simpa [waits] using (sound.answered present).value

theorem inside (sound : Sound c jobs events s) {i : Nat} (through : i ∈ s.ended) :
    i < jobs.length :=
  (sound.ended i (sound.through i through)).trans_le sound.bound

theorem ended_of_not_running (sound : Sound c jobs events s) (all : s.called = jobs.length)
    {i : Nat} (inside : i < jobs.length) (idle : i ∉ s.running) : .ended i ∈ events :=
  Classical.byContradiction fun pending => idle ((sound.running i).mpr ⟨all ▸ inside, pending⟩)

/-- Where nothing is left to collect, the items without a result are those that still run. -/
theorem fill_eq (sound : Sound c jobs events s) (waits : s.answer = none)
    (all : s.called = jobs.length) (collected : s.ended = [])
    (unfinished : s.running ≠ [] → rest = Coordinator.timedOut) :
    fill rest s.slots = Job.reports jobs (caught (events ++ [.answered])) := by
  have untilNow := Event.before_append_self (sound.absent waits)
  apply List.ext_getElem?
  intro i
  rw [fill, List.getElem?_mapIdx, Job.getElem?_reports]
  cases item : jobs[i]? with
  | none =>
    have outside := List.getElem?_eq_none_iff.mp item
    rw [List.getElem?_eq_none (sound.slots ▸ outside)]
    rfl
  | some job =>
    obtain ⟨inside, -⟩ := List.getElem?_eq_some_iff.mp item
    rcases sound.slot i job item with ⟨empty, place⟩ | ⟨filled, ended⟩
    · have pending : .ended i ∉ events := fun ended => by simpa [collected] using place ended
      have runs : i ∈ s.running := (sound.running i).mpr ⟨all ▸ inside, pending⟩
      have missed : caught (events ++ [.answered]) i = false :=
        Bool.eq_false_iff.mpr fun kept => pending (untilNow ▸ endedBefore_iff.mp kept)
      simp [empty, missed, unfinished (List.ne_nil_of_mem runs)]
    · have kept : caught (events ++ [.answered]) i = true :=
        endedBefore_iff.mpr (untilNow.symm ▸ ended)
      simp [filled, kept]

/-- The answer is given once nothing is left to collect: at the deadline, or when nothing runs. -/
theorem give (sound : Sound c jobs events s) (waits : s.answer = none)
    (all : s.called = jobs.length) (collected : s.ended = [])
    (unfinished : s.running ≠ [] → s.struck = true ∧ rest = Coordinator.timedOut) :
    Sound c jobs (events ++ [.answered]) { s with answer := some (.ok (fill rest s.slots)) } := by
  refine {
    calls := by simpa [Event.calls_append, Event.call?] using sound.calls
    bound := sound.bound
    slots := sound.slots
    distinct := sound.distinct
    running := by simpa using sound.running
    ended := by simpa using sound.ended
    through := by simpa using sound.through
    slot := by simpa using sound.slot
    struck := by simpa using sound.struck
    limited := sound.limited
    waits := by simp
    answered := fun _ => {
      all := all
      value := ?_
      cause := ?_ } }
  · rw [sound.fill_eq waits all collected fun still => (unfinished still).2]
  · rw [Event.before_append_self (sound.absent waits)]
    by_cases still : s.running = []
    · exact .inr fun i inside => sound.ended_of_not_running all inside (by simp [still])
    · have past := (unfinished still).1
      exact .inl ⟨sound.struck.mpr past, (sound.limited past).2⟩

theorem step (sound : Sound c jobs events s) (step : Step c jobs s e s') :
    Sound c jobs (events ++ [e]) s' := by
  cases step with
  | dispatch waits more =>
    have absent := sound.absent waits
    exact { sound with
      calls := by simp [Event.calls_append, Event.call?, sound.calls, List.range_succ]
      bound := more
      distinct := by
        refine List.nodup_append.mpr ⟨sound.distinct, by simp, fun i runs j here => ?_⟩
        have := ((sound.running i).mp runs).1
        have := List.mem_singleton.mp here
        omega
      running := fun i => by
        simp only [List.mem_append, List.mem_singleton, sound.running, reduceCtorEq, or_false]
        by_cases here : i = s.called
        · simpa [here] using fun ended => absurd (sound.ended _ ended) (Nat.lt_irrefl _)
        · simp only [here, or_false]
          exact and_congr_left fun _ => by omega
      ended := fun i member => Nat.lt_succ_of_lt (sound.ended i (by simpa using member))
      through := fun i member => by simpa using sound.through i member
      slot := by simpa using sound.slot
      struck := by simpa using sound.struck
      limited := fun past => absurd (sound.limited past).1 (Nat.ne_of_lt more)
      waits := fun _ => waits
      answered := fun present => by simp [absent] at present }
  | @finish i runs =>
    obtain ⟨inside, -⟩ := (sound.running i).mp runs
    refine { sound with
      calls := by simpa [Event.calls_append, Event.call?] using sound.calls
      distinct := sound.distinct.erase i
      running := fun j => ?_
      ended := fun j member => ?_
      through := fun j member => ?_
      slot := fun j job item => ?_
      struck := by simpa using sound.struck
      waits := fun absent => sound.waits fun present => absent (List.mem_append_left _ present)
      answered := fun present => ?_ }
    · rw [sound.distinct.mem_erase_iff, sound.running]
      simp only [List.mem_append, List.mem_singleton, Event.ended.injEq, not_or]
      exact ⟨fun ⟨other, before, pending⟩ => ⟨before, pending, other⟩,
        fun ⟨before, pending, other⟩ => ⟨other, before, pending⟩⟩
    · rcases List.mem_append.mp member with earlier | now
      · exact sound.ended j earlier
      · obtain rfl : j = i := by simpa using now
        exact inside
    · rcases List.mem_append.mp member with earlier | now
      · exact List.mem_append_left _ (sound.through j earlier)
      · simp [List.mem_singleton.mp now]
    · rcases sound.slot j job item with ⟨empty, place⟩ | ⟨filled, ended⟩
      · refine .inl ⟨empty, fun member => ?_⟩
        rcases List.mem_append.mp member with earlier | now
        · exact List.mem_append_left _ (place earlier)
        · obtain rfl : j = i := by simpa using now
          simp
      · exact .inr ⟨filled, List.mem_append_left _ ended⟩
    · have given : .answered ∈ events := by simpa using present
      exact (sound.answered given).behind given _ _ _
  | strike waits all limited ahead =>
    have absent := sound.absent waits
    exact { sound with
      calls := by simpa [Event.calls_append, Event.call?] using sound.calls
      running := by simpa using sound.running
      ended := by simpa using sound.ended
      through := by simpa using sound.through
      slot := by simpa using sound.slot
      struck := by simp
      limited := fun _ => ⟨all, limited⟩
      waits := fun _ => waits
      answered := fun present => by simp [absent] at present }
  | @collect i job item waits all through =>
    have absent := sound.absent waits
    obtain ⟨inside, -⟩ := List.getElem?_eq_some_iff.mp item
    exact { sound with
      calls := by simpa [Event.calls_append, Event.call?] using sound.calls
      slots := List.length_set.trans sound.slots
      running := by simpa using sound.running
      ended := by simpa using sound.ended
      through := fun j member => by simpa using sound.through j (List.mem_of_mem_erase member)
      slot := fun j other found => by
        by_cases here : j = i
        · subst here
          obtain rfl : other = job := by simpa [item, eq_comm] using found
          have ended := List.mem_append_left [Event.collected j] (sound.through j through)
          exact .inr ⟨by simp [sound.slots, inside], ended⟩
        · simpa [List.getElem?_set_ne (Ne.symm here), List.mem_erase_of_ne here] using
            sound.slot j other found
      struck := by simpa using sound.struck
      waits := fun _ => waits
      answered := fun present => by simp [absent] at present }
  | expire waits past collected unfinished =>
    exact sound.give waits (sound.limited past).1 collected fun _ => ⟨past, rfl⟩
  | close waits all collected finished =>
    exact sound.give waits all collected fun still => absurd finished still

end Sound

theorem Run.sound (run : Run c jobs events s) (fits : jobs.length ≤ c.maxSize) :
    Sound c jobs events s := by
  induction run with
  | start => exact sound_start fits
  | step _ step ih => exact ih.step step

theorem Run.refused (run : Run c jobs events s) (exceeds : c.maxSize < jobs.length) :
    events = [] ∧ s.answer = some (.error (.validation (.batchTooLarge jobs.length c.maxSize))) ∧
      s.running = [] := by
  induction run with
  | start => simp [Gathering.start, Coordinator.checkSize, exceeds]
  | step run step ih =>
    obtain ⟨-, refused, idle⟩ := ih
    cases step with
    | finish runs => simp [idle] at runs
    | dispatch waits | strike waits | collect _ waits | expire waits | close waits =>
      simp [refused] at waits

namespace Answered

theorem early (answered : Answered c jobs events s) (sound : Sound c jobs events s) {i : Nat}
    (kept : timely events i = true) : caught events i = true := by
  have ended := endedBefore_iff.mp kept
  rcases answered.cause with ⟨past, -⟩ | every
  · rw [← Event.before_append_dropWhile .answered events, Event.before_append_of_mem past] at ended
    exact endedBefore_iff.mpr (Event.mem_of_mem_before ended)
  · have inside := sound.ended i (Event.mem_of_mem_before ended)
    exact endedBefore_iff.mpr (every i (answered.all ▸ inside))

theorem unlimited (answered : Answered c jobs events s) (free : c.timeout = none) {i : Nat}
    (inside : i < jobs.length) : caught events i = true :=
  endedBefore_iff.mpr (answered.cause.resolve_left (fun past => past.2 free) i inside)

end Answered

theorem Punctual.timely (punctual : Punctual events) {i : Nat} (kept : caught events i = true) :
    timely events i = true := by
  have ended := endedBefore_iff.mp kept
  rw [← Event.before_append_dropWhile .struck (before .answered events)] at ended
  rw [endedBefore_iff, ← Event.before_append_dropWhile .answered events]
  exact Event.mem_before_append ((List.mem_append.mp ended).resolve_right (punctual i))

theorem Answered.value_of_punctual (answered : Answered c jobs events s)
    (sound : Sound c jobs events s) (punctual : Punctual events) :
    s.answer = some (.ok (Job.reports jobs (timely events))) := by
  rw [answered.value]
  congr 2
  refine Job.reports_congr fun i _ => Bool.eq_iff_iff.mpr ?_
  exact ⟨punctual.timely, answered.early sound⟩

/-- How much can still happen. -/
def remaining (jobs : List (Job α)) (s : Gathering α) : Nat :=
  3 * (jobs.length - s.called) + 2 * s.running.length + s.ended.length +
    (if s.struck then 0 else 1) + if s.answer.isNone then 1 else 0

namespace Step

theorem remaining_lt (step : Step c jobs s e s') : remaining jobs s' < remaining jobs s := by
  cases step with
  | dispatch waits more =>
    simp only [remaining, List.length_append, List.length_singleton]
    omega
  | finish runs =>
    have := List.length_erase_of_mem runs
    have := List.length_pos_of_mem runs
    simp only [remaining, List.length_append, List.length_singleton]
    omega
  | strike waits all limited ahead => simp [remaining, ahead]
  | collect item waits all through =>
    have := List.length_erase_of_mem through
    have := List.length_pos_of_mem through
    simp only [remaining]
    omega
  | expire waits | close waits => simp [remaining, waits]

theorem answer_stays (step : Step c jobs s e s') (given : s.answer ≠ none) :
    s'.answer = s.answer := by
  cases step with
  | finish => rfl
  | dispatch waits | strike waits | collect _ waits | expire waits | close waits =>
    exact absurd waits given

end Step

namespace Sound

theorem advances (sound : Sound c jobs events s) (unsettled : s.answer = none ∨ s.running ≠ []) :
    ∃ e s', Step c jobs s e s' := by
  cases runs : s.running with
  | cons i rest => exact ⟨_, _, .finish (i := i) (by simp [runs])⟩
  | nil =>
    have waits := unsettled.resolve_right fun still => still runs
    rcases Nat.lt_or_eq_of_le sound.bound with more | all
    · exact ⟨_, _, .dispatch waits more⟩
    · cases through : s.ended with
      | nil => exact ⟨_, _, .close waits all through runs⟩
      | cons i behind =>
        have listed : i ∈ s.ended := by simp [through]
        have item := List.getElem?_eq_getElem (sound.inside listed)
        exact ⟨_, _, .collect item waits all listed⟩

theorem given (sound : Sound c jobs events s) (answered : s.answer ≠ none) :
    Answered c jobs events s :=
  sound.answered (Classical.byContradiction fun absent => answered (sound.waits absent))

theorem rests (sound : Sound c jobs events s) (still : ∀ e s', ¬Step c jobs s e s') :
    s.answer ≠ none ∧ ∀ i < jobs.length, .ended i ∈ events := by
  obtain ⟨answered, finished⟩ : s.answer ≠ none ∧ s.running = [] := by
    refine Classical.byContradiction fun unsettled => ?_
    obtain ⟨e, s', step⟩ :=
      sound.advances (by simpa [Classical.or_iff_not_imp_left] using unsettled)
    exact still e s' step
  exact ⟨answered, fun i inside =>
    sound.ended_of_not_running (sound.given answered).all inside (by simp [finished])⟩

end Sound

/-- What holds at every moment of a batch that is not too large, in whichever order its tasks end.
The answer reports the items that had ended before it; they are all those that ended before the
deadline, and no others if it is given at the deadline. -/
structure Settles (c : Coordinator) (jobs : List (Job α)) (events : List Event)
    (s : Gathering α) : Prop where
  -- the operation is called item by item, for none of them twice
  calls : Event.calls events = List.range s.called
  answer : ∀ answer, s.answer = some answer → Event.calls events = List.range jobs.length ∧
    ∃ results, answer = .ok results ∧ Reports jobs (caught events) results ∧
      (Punctual events → Reports jobs (timely events) results)
  early : s.answer ≠ none → ∀ i, timely events i = true → caught events i = true
  unlimited : s.answer ≠ none → c.timeout = none → ∀ i < jobs.length, caught events i = true
  moves : ∀ e s', Step c jobs s e s' → remaining jobs s' < remaining jobs s ∧
    (s.answer ≠ none → s'.answer = s.answer)
  rests : (∀ e s', ¬Step c jobs s e s') →
    s.answer ≠ none ∧ ∀ i < jobs.length, .ended i ∈ events

theorem Sound.settles (sound : Sound c jobs events s) : Settles c jobs events s where
  calls := sound.calls
  answer answer given := by
    have answered := sound.given (given ▸ Option.some_ne_none answer)
    obtain rfl := Option.some.inj (given.symm.trans answered.value)
    refine ⟨answered.all ▸ sound.calls, _, rfl, .of_reports jobs _, fun punctual => ?_⟩
    have same := answered.value.symm.trans (answered.value_of_punctual sound punctual)
    rw [Except.ok.inj (Option.some.inj same)]
    exact .of_reports jobs _
  early answered _ := (sound.given answered).early sound
  unlimited answered free _ := (sound.given answered).unlimited free
  moves _ _ step := ⟨step.remaining_lt, step.answer_stays⟩
  rests := sound.rests

/-- An answer that is given at once, because nothing runs or because the deadline passes now. -/
theorem punctual_append {last : List Event} (ahead : .struck ∉ events)
    (waits : .answered ∉ events) (atOnce : last = [.answered] ∨ last = [.struck, .answered]) :
    Punctual (events ++ last) ∧ ∀ i, timely (events ++ last) i = true ↔ .ended i ∈ events := by
  have skipped : ∀ e ∈ events, (e != .struck) = true :=
    fun e member => bne_iff_ne.mpr fun same => ahead (same ▸ member)
  constructor
  · intro i
    rw [Event.before_append_of_not_mem waits, List.dropWhile_append_of_pos skipped]
    rcases atOnce with rfl | rfl <;> simp [before]
  · intro i
    rw [endedBefore_iff, Event.before_append_of_not_mem ahead]
    rcases atOnce with rfl | rfl <;> simp [before]

/-- A course in which just the items in time end before the deadline, and the answer is given
then. -/
def InTime (c : Coordinator) (jobs : List (Job α)) (events : List Event) (s : Gathering α) : Prop :=
  Run c jobs events s ∧ Punctual events ∧ s.answer ≠ none ∧
    ∀ i < jobs.length, timely events i = c.meets jobs i

/-- Where nothing is left to collect and only late items run, the batch ends in time: it is closed,
or the deadline passes. -/
theorem Run.ends_in_time (run : Run c jobs events s) (fits : jobs.length ≤ c.maxSize)
    (waits : s.answer = none) (ahead : s.struck = false) (all : s.called = jobs.length)
    (collected : s.ended = []) (due : ∀ i, .ended i ∈ events → c.meets jobs i = true)
    (late : ∀ i ∈ s.running, ¬c.meets jobs i = true) : ∃ events s, InTime c jobs events s := by
  have sound := run.sound fits
  have absent : .struck ∉ events := by simp [sound.struck, ahead]
  have ended {i : Nat} (inside : i < jobs.length) : .ended i ∈ events ↔ c.meets jobs i = true :=
    ⟨due i, fun inTime => sound.ended_of_not_running all inside fun runs => late i runs inTime⟩
  by_cases finished : s.running = []
  · obtain ⟨punctual, known⟩ := punctual_append absent (sound.absent waits) (.inl rfl)
    refine ⟨_, _, .step run (.close waits all collected finished), punctual, by simp, ?_⟩
    exact fun i inside => Bool.eq_iff_iff.mpr ((known i).trans (ended inside))
  · obtain ⟨i, runs⟩ := List.exists_mem_of_ne_nil _ finished
    have inside := all ▸ ((sound.running i).mp runs).1
    have limited : c.timeout ≠ none := fun free =>
      late i runs (Coordinator.meets_of_unlimited free inside)
    obtain ⟨punctual, known⟩ := punctual_append absent (sound.absent waits) (.inr rfl)
    have struck := Run.step run (.strike waits all limited ahead)
    have answered := Run.step struck (.expire waits rfl collected finished)
    rw [List.append_assoc] at answered
    refine ⟨_, _, answered, punctual, by simp, ?_⟩
    exact fun i inside => Bool.eq_iff_iff.mpr ((known i).trans (ended inside))

/-- As long as only items in time have ended, the batch can go on so. -/
theorem Run.keeps_time (run : Run c jobs events s) (fits : jobs.length ≤ c.maxSize)
    (waits : s.answer = none) (ahead : s.struck = false)
    (due : ∀ i, .ended i ∈ events → c.meets jobs i = true) :
    ∃ events s, InTime c jobs events s := by
  -- on what can still happen: to dispatch and to collect leaves less of it, and so does a task that
  -- ends in time
  induction bound : remaining jobs s using Nat.strongRecOn generalizing s events with
  | ind n ih =>
    have sound := run.sound fits
    have next {e : Event} {s' : Gathering α} (step : Step c jobs s e s') :=
      ih _ (bound ▸ step.remaining_lt) (.step run step)
    rcases Nat.lt_or_eq_of_le sound.bound with more | all
    · exact next (.dispatch waits more) waits ahead (by simpa using due) rfl
    cases through : s.ended with
    | cons i behind =>
      have listed : i ∈ s.ended := by simp [through]
      have item := List.getElem?_eq_getElem (sound.inside listed)
      exact next (.collect item waits all listed) waits ahead (by simpa using due) rfl
    | nil =>
      by_cases more : ∃ i ∈ s.running, c.meets jobs i = true
      · obtain ⟨i, runs, inTime⟩ := more
        refine next (.finish runs) waits ahead (fun j member => ?_) rfl
        rcases List.mem_append.mp member with earlier | now
        · exact due j earlier
        · obtain rfl : j = i := by simpa using now
          exact inTime
      · exact run.ends_in_time fits waits ahead all through due fun i runs inTime =>
          more ⟨i, runs, inTime⟩

end Gathering

namespace Coordinator

variable {c : Coordinator} {jobs : List (Job α)}

/-- What the run of a batch against the clock reports, and that it is a course the batch can take:
the one in which the items end in time that need less than the deadline allows. -/
structure Runs (c : Coordinator) (jobs : List (Job α)) (r : BatchRun α) : Prop where
  dispatched : r.dispatched = List.range jobs.length
  reports : Reports jobs (c.meets jobs) r.results
  inTime : ∀ (i : Nat) (job : Job α), jobs[i]? = some job → (c.meets jobs i = true ↔
    ∀ limit delay, c.timeout = some limit → job.delay = some delay → delay < limit)
  endedAtReturn : r.endedAtReturn = (List.range jobs.length).filter (c.meets jobs)
  endedLater : r.endedLater = List.range jobs.length
  course : ∃ events s, Gathering.InTime c jobs events s ∧ s.answer = some (.ok r.results)

theorem runs_of_run {r : BatchRun α} (fits : jobs.length ≤ c.maxSize) (ran : c.run jobs = .ok r) :
    c.Runs jobs r := by
  obtain rfl := Except.ok.inj ((run_of_fits fits).symm.trans ran)
  obtain ⟨events, s, course⟩ :=
    Gathering.Run.start.keeps_time fits (Gathering.start_waits fits) rfl nofun
  refine ⟨rfl, .of_reports jobs _, fun i job item => ?_, rfl, rfl, events, s, course, ?_⟩
  · rw [meets_of_item item, inTime_iff]
  · obtain ⟨run, punctual, given, inTime⟩ := course
    have sound := run.sound fits
    rw [(sound.given given).value_of_punctual sound punctual, Job.reports_congr inTime]

end Coordinator

end MemoryBank
