import MemoryBank.Filter.Predicate
import MemoryBank.Proofs.Filter.Conditions
import MemoryBank.Proofs.Json.Equality
import MemoryBank.Proofs.Store.Paths
import MemoryBank.Store.Query

set_option autoImplicit false

/-!
Conditions and the predicate written for them, judged on one payload. The store finds fields along
paths and knows operators of its own, so the two agree on every payload exactly if no field has a
dot in it and no operand is a document of operators. A condition that nothing meets hides what
stands behind it, and then they agree as long as the store does not fail.
-/

namespace MemoryBank

/-- Where the payload lies in what a predicate is judged on. -/
inductive Place
  | stored
  | searched

namespace Place

def base : Place → String
  | stored => storedPayloadPath
  | searched => searchedPayloadPath

def document (payload : Object) : Place → Document
  | stored => [("payload", .object payload)]
  | searched => [("document", .object [("payload", .object payload)])]

/-- The store's judgement of a payload. -/
def judge (place : Place) (filters : Filters) (payload : Object) : Result Bool := do
  (place.document payload).satisfies (← filters.predicate place.base)

/-- The payload lies where a predicate looks for it. -/
def Shows (place : Place) (d : Document) (payload : Object) : Prop :=
  ∀ field, d.getPath? (Path.ofText (place.base ++ field)) = payload.getPath? (Path.ofText field)

theorem shows_of_get? {d : Document} {payload : Object}
    (lies : d.get? "payload" = some (.object payload)) : stored.Shows d payload := by
  intro field
  change d.getPath? (Path.ofText ("payload" ++ "." ++ field)) = _
  rw [Path.ofText_append (by decide)]
  exact Object.getPath?_object (Path.ofText_ne_nil field) lies

theorem Shows.within {d inner : Document} {payload : Object} (shows : stored.Shows inner payload)
    (lies : d.get? "document" = some (.object inner)) : searched.Shows d payload := by
  intro field
  have split : searched.base ++ field = "document" ++ "." ++ (stored.base ++ field) := by
    simp [base, storedPayloadPath, searchedPayloadPath, ← String.toList_inj]
  rw [split, Path.ofText_append (by decide), Object.getPath?_object (Path.ofText_ne_nil _) lies]
  exact shows field

theorem shows_document (place : Place) (payload : Object) :
    place.Shows (place.document payload) payload := by
  cases place with
  | stored => exact shows_of_get? rfl
  | searched => exact (shows_of_get? (d := [("payload", .object payload)]) rfl).within rfl

end Place

def Test.Plain : Test → Prop
  | .equals v => Query.operators? v = none
  | .oneOf _ => True

/-- The store looks where the condition looks, and for the value the condition names. -/
def Condition.Plain (c : Condition) : Prop := Path.IsPart c.field ∧ c.test.Plain

def Test.judged : Test → Option Json → Result Bool
  | .equals v, actual => Query.conditionHolds actual v
  | .oneOf vs, actual => .ok (vs.any (matchesValue actual))

namespace Condition

def judged (c : Condition) (payload : Object) : Result Bool :=
  c.test.judged (payload.getPath? (Path.ofText c.field))

def allJudged : List Condition → Object → Result Bool
  | [], _ => .ok true
  | c :: rest, payload => do
      if ← c.judged payload then allJudged rest payload else return false

end Condition

namespace Place

theorem isOperator_base (place : Place) (field : String) :
    Query.isOperator (place.base ++ field) = false := by
  cases place <;> simp [Query.isOperator, base, storedPayloadPath, searchedPayloadPath]

section

variable {place : Place} {d : Document} {payload : Object} (shows : place.Shows d payload)
include shows

theorem clauseHolds (field : String) (v : Json) :
    Query.clauseHolds d (place.base ++ field) v =
      Query.conditionHolds (payload.getPath? (Path.ofText field)) v := by
  have plain := place.isOperator_base field
  have notAnd : place.base ++ field ≠ "$and" := by
    intro same
    rw [same] at plain
    exact absurd plain (by decide)
  have notOr : place.base ++ field ≠ "$or" := by
    intro same
    rw [same] at plain
    exact absurd plain (by decide)
  cases v <;> simp [Query.clauseHolds, Query.fieldHolds, notAnd, notOr, plain, shows field]

theorem itemHolds (c : Condition) : Query.itemHolds d (c.clause place.base) = c.judged payload := by
  cases test : c.test with
  | equals v =>
    simp only [Condition.clause, Condition.judged, test, Test.clause, Test.judged, Query.itemHolds,
      Query.holds, clauseHolds shows]
    cases Query.conditionHolds (payload.getPath? (Path.ofText c.field)) v with
    | error cause => rfl
    | ok b => cases b <;> rfl
  | oneOf vs =>
    simp only [Condition.clause, Condition.judged, test, Test.clause, Test.judged, Query.itemHolds,
      Query.holds, clauseHolds shows]
    have operators : Query.operators? (.object [("$in", .array vs)]) =
        some [("$in", .array vs)] := by simp [Query.operators?, Query.isOperator]
    simp only [Query.conditionHolds, operators, Query.operatorsHold, Query.operatorHolds,
      Query.member]
    cases vs.any (matchesValue (payload.getPath? (Path.ofText c.field))) <;> rfl

theorem allHold (cs : List Condition) :
    Query.allHold d (cs.map (·.clause place.base)) = Condition.allJudged cs payload := by
  induction cs with
  | nil => rfl
  | cons c rest ih =>
    simp only [List.map_cons, Query.allHold, Condition.allJudged, itemHolds shows, ih]

theorem satisfies_predicate {filters : Filters} {cs : List Condition} {filter : Document}
    (parsed : filters.conditions = .ok cs) (written : filters.predicate place.base = .ok filter) :
    d.satisfies filter = Condition.allJudged cs payload := by
  rw [Filters.predicate, Filters.predicate?, parsed] at written
  cases cs with
  | nil =>
    obtain rfl : [] = filter := Except.ok.inj written
    rfl
  | cons c rest =>
    obtain rfl : [("$and", .array ((c :: rest).map (·.clause place.base)))] = filter :=
      Except.ok.inj written
    have documents : ((c :: rest).map (·.clause place.base)).all (·.object?.isSome) = true := by
      rw [List.all_map, List.all_eq_true]
      intro d _
      cases test : d.test <;> simp [Condition.clause, test, Test.clause, Json.object?]
    have checked : Query.checkItems "$and" ((c :: rest).map (·.clause place.base)) = .ok () := by
      rw [Query.checkItems, documents]
      rfl
    simp only [Document.satisfies, Query.holds, Query.clauseHolds, checked, allHold shows]
    cases Condition.allJudged (c :: rest) payload with
    | error cause => rfl
    | ok b => cases b <;> rfl

end

theorem judge_eq (place : Place) {filters : Filters} {cs : List Condition}
    (parsed : filters.conditions = .ok cs) (payload : Object) :
    place.judge filters payload = Condition.allJudged cs payload := by
  have written : ∃ filter, filters.predicate place.base = .ok filter := by
    rw [Filters.predicate, Filters.predicate?, parsed]
    cases cs <;> exact ⟨_, rfl⟩
  obtain ⟨filter, written⟩ := written
  rw [judge, written]
  exact satisfies_predicate (place.shows_document payload) parsed written

end Place

namespace Condition

theorem allJudged_of_judged {cs : List Condition} {payload : Object}
    (agree : ∀ c ∈ cs, c.judged payload = .ok (c.holds payload)) :
    allJudged cs payload = .ok (cs.all (·.holds payload)) := by
  induction cs with
  | nil => rfl
  | cons c rest ih =>
    rw [allJudged, agree c List.mem_cons_self,
      ih fun d member => agree d (List.mem_cons_of_mem _ member)]
    cases holds : c.holds payload <;> simp [holds, pure, Except.pure]

theorem allJudged_eq_true {cs : List Condition} {payload : Object} :
    allJudged cs payload = .ok true ↔ ∀ c ∈ cs, c.judged payload = .ok true := by
  induction cs with
  | nil => simp [allJudged]
  | cons c rest ih =>
    rw [allJudged, List.forall_mem_cons, ← ih]
    cases c.judged payload with
    | error cause => simp
    | ok b => cases b <;> simp [pure, Except.pure]

theorem Plain.judged {c : Condition} (plain : c.Plain) (payload : Object) :
    c.judged payload = .ok (c.holds payload) := by
  rw [Condition.judged, Object.getPath?_isPart payload plain.1, Condition.holds]
  cases test : c.test with
  | equals v =>
    have none : Query.operators? v = none := by
      simpa [Condition.Plain, test, Test.Plain] using plain.2
    simp only [Test.judged, Query.conditionHolds, none, Test.holds]
  | oneOf vs => rfl

end Condition

namespace Query

theorem operators?_eq_some {v : Json} {operators : Object} (read : operators? v = some operators) :
    v = .object operators := by
  unfold operators? at read
  split at read
  · split at read
    · rw [Option.some.inj read]
    · cases read
  · cases read

theorem operatorHolds_deep {o o' : Object} {operand : Json} (operator : String)
    (deep : operand.depth < (Json.object o).depth)
    (deep' : operand.depth < (Json.object o').depth) :
    operatorHolds (some (.object o)) operand operator =
      operatorHolds (some (.object o')) operand operator := by
  have members (name : String) :
      member name (some (.object o)) operand = member name (some (.object o')) operand := by
    cases operand with
    | array options =>
      simp only [member, any_matchesValue_object (Nat.le_of_lt deep),
        any_matchesValue_object (Nat.le_of_lt deep')]
    | null | bool _ | number _ | string _ | object _ => rfl
  have unordered (test : Ordering → Bool) (p : Object) :
      ordered test (some (.object p)) operand = false := by
    cases operand <;> rfl
  -- only values without parts are ordered, and a value equal to the operand is no deeper than it
  unfold operatorHolds
  split <;> simp [matchesValue_object deep, matchesValue_object deep', members, unordered]

theorem operatorsHold_deep {o o' : Object} (operators : Object)
    (deep : Json.depthEntries operators < (Json.object o).depth)
    (deep' : Json.depthEntries operators < (Json.object o').depth) :
    operatorsHold (some (.object o)) operators = operatorsHold (some (.object o')) operators := by
  induction operators with
  | nil => rfl
  | cons e rest ih =>
    obtain ⟨operator, operand⟩ := e
    simp only [Json.depthEntries] at deep deep'
    have first : operatorHolds (some (.object o)) operand operator =
        operatorHolds (some (.object o')) operand operator :=
      operatorHolds_deep operator (by omega) (by omega)
    rw [operatorsHold, operatorsHold, first, ih (by omega) (by omega)]

end Query

namespace Test

def sample : Test → Json
  | equals v => v
  | oneOf (v :: _) => v
  | oneOf [] => .null

def operand : Test → Json
  | equals v => v
  | oneOf vs => .array vs

/-- A value that is too deep to meet the test. -/
def spoiled (t : Test) : Json := .object [("", t.operand)]

theorem depth_spoiled (t : Test) : t.spoiled.depth = t.operand.depth + 1 := by
  simp [spoiled, Json.depth, Json.depthEntries]

theorem sample_holds {t : Test} (valid : t.WellFormed) (possible : t ≠ .oneOf []) :
    t.holds (some t.sample) = true := by
  cases t with
  | equals v => exact matchesValue_refl valid
  | oneOf vs =>
    cases vs with
    | nil => exact absurd rfl possible
    | cons v rest =>
      have found : matchesValue (some v) v = true := matchesValue_refl valid.1
      simp [holds, sample, found]

theorem sample_wellFormed {t : Test} (valid : t.WellFormed) : t.sample.WellFormed := by
  cases t with
  | equals v => exact valid
  | oneOf vs =>
    cases vs with
    | nil => trivial
    | cons v rest => exact valid.1

theorem spoiled_wellFormed {t : Test} (valid : t.WellFormed) : t.spoiled.WellFormed := by
  have operand : t.operand.WellFormed := by cases t <;> exact valid
  exact ⟨by simp, operand, trivial⟩

theorem spoiled_holds (t : Test) : t.holds (some t.spoiled) = false := by
  have deep := t.depth_spoiled
  cases t with
  | equals v => exact matchesValue_object (by simp only [operand, spoiled] at deep ⊢; omega)
  | oneOf vs => exact any_matchesValue_object (by simp only [operand, spoiled] at deep ⊢; omega)

end Test

namespace Condition

def samples (cs : List Condition) : Object := cs.map fun c => (c.field, c.test.sample)

theorem keys_samples (cs : List Condition) : (samples cs).keys = cs.map (·.field) := by
  simp [samples, Object.keys]

theorem samples_wellFormed {cs : List Condition} (distinct : (cs.map (·.field)).Nodup)
    (valid : ∀ c ∈ cs, c.test.WellFormed) : (samples cs).WellFormed := by
  refine ⟨by rw [← keys_samples] at distinct; exact distinct, ?_⟩
  induction cs with
  | nil => trivial
  | cons c rest ih =>
    rw [List.map_cons, List.nodup_cons] at distinct
    exact ⟨Test.sample_wellFormed (valid c List.mem_cons_self),
      ih distinct.2 fun d member => valid d (List.mem_cons_of_mem _ member)⟩

theorem get?_samples {cs : List Condition} (distinct : (cs.map (·.field)).Nodup) {c : Condition}
    (member : c ∈ cs) : (samples cs).get? c.field = some c.test.sample :=
  Object.get?_of_mem (by rwa [keys_samples])
    (List.mem_map.mpr ⟨c, member, rfl⟩)

theorem samples_hold {cs : List Condition} (distinct : (cs.map (·.field)).Nodup)
    (valid : ∀ c ∈ cs, c.test.WellFormed) (possible : ∀ c ∈ cs, c.test ≠ .oneOf []) :
    cs.all (·.holds (samples cs)) = true := by
  rw [List.all_eq_true]
  intro c member
  rw [holds, get?_samples distinct member]
  exact Test.sample_holds (valid c member) (possible c member)

theorem eq_of_field {cs : List Condition} (distinct : (cs.map (·.field)).Nodup) {c d : Condition}
    (first : c ∈ cs) (second : d ∈ cs) (same : c.field = d.field) : c = d := by
  induction cs with
  | nil => cases first
  | cons e rest ih =>
    rw [List.map_cons, List.nodup_cons] at distinct
    rcases List.mem_cons.mp first with rfl | behind <;>
      rcases List.mem_cons.mp second with rfl | behind'
    · rfl
    · exact absurd (List.mem_map.mpr ⟨d, behind', same.symm⟩) distinct.1
    · exact absurd (List.mem_map.mpr ⟨c, behind, same⟩) distinct.1
    · exact ih distinct.2 behind behind'

def spoiledSamples (cs : List Condition) (c : Condition) : Object :=
  (samples cs).insert c.field c.test.spoiled

theorem spoiledSamples_fail {cs : List Condition} {c : Condition} (member : c ∈ cs) :
    cs.all (·.holds (spoiledSamples cs c)) = false := by
  rw [List.all_eq_false]
  refine ⟨c, member, ?_⟩
  rw [holds, spoiledSamples, Object.get?_insert_self, Test.spoiled_holds]
  simp

theorem judged_spoiled_of_not_isPart {c : Condition} (dotted : ¬Path.IsPart c.field)
    (cs : List Condition) (d : Condition) :
    d.judged (spoiledSamples cs c) = d.judged (samples cs) := by
  rw [judged, judged, spoiledSamples, Object.getPath?_insert_of_not_isPart _ dotted]

theorem judged_spoiled_of_operators {cs : List Condition} (distinct : (cs.map (·.field)).Nodup)
    (flat : ∀ c ∈ cs, Path.IsPart c.field) {c : Condition} (member : c ∈ cs) {v : Json}
    (test : c.test = .equals v) {operators : Object} (read : Query.operators? v = some operators)
    {d : Condition} (other : d ∈ cs) :
    d.judged (spoiledSamples cs c) = d.judged (samples cs) := by
  rw [judged, judged, Object.getPath?_isPart _ (flat d other), spoiledSamples,
    Object.getPath?_isPart _ (flat d other), Object.get?_insert]
  by_cases same : c.field = d.field
  · obtain rfl := eq_of_field distinct member other same
    obtain rfl := Query.operators?_eq_some read
    rw [if_pos rfl, get?_samples distinct member]
    -- the sample, which is the operand itself, and the spoiled one are deeper than any operator
    have deeper : Json.depthEntries operators < c.test.spoiled.depth := by
      simp only [Test.depth_spoiled, test, Test.operand, Json.depth]
      omega
    have deep : Json.depthEntries operators < (Json.object operators).depth := Nat.lt_succ_self _
    rw [test] at deeper ⊢
    simp only [Test.judged, Query.conditionHolds, read]
    exact Query.operatorsHold_deep operators deeper deep
  · rw [if_neg same]

theorem plain_of_agrees {cs : List Condition} (distinct : (cs.map (·.field)).Nodup)
    (valid : ∀ c ∈ cs, c.test.WellFormed) (possible : ∀ c ∈ cs, c.test ≠ .oneOf [])
    (agree : ∀ payload, payload.WellFormed →
      allJudged cs payload = .ok (cs.all (·.holds payload))) : ∀ c ∈ cs, c.Plain := by
  have accepted := agree _ (samples_wellFormed distinct valid)
  rw [samples_hold distinct valid possible, allJudged_eq_true] at accepted
  -- with one sample spoiled the conditions fail, so the store has to judge some of them otherwise
  have differs (c : Condition) (member : c ∈ cs) :
      ¬∀ d ∈ cs, d.judged (spoiledSamples cs c) = d.judged (samples cs) := by
    intro blind
    have rejected := agree (spoiledSamples cs c)
      (Object.wellFormed_insert (samples_wellFormed distinct valid)
        (Test.spoiled_wellFormed (valid c member)) _)
    rw [spoiledSamples_fail member,
      allJudged_eq_true.mpr fun d other => (blind d other).trans (accepted d other)] at rejected
    cases rejected
  have flat : ∀ c ∈ cs, Path.IsPart c.field := by
    intro c member
    by_cases dotted : Path.IsPart c.field
    · exact dotted
    · exact absurd (fun d _ => judged_spoiled_of_not_isPart dotted cs d) (differs c member)
  -- now that no field has a dot, the spoiled sample is seen by its own condition only
  intro c member
  refine ⟨flat c member, ?_⟩
  cases test : c.test with
  | oneOf vs => trivial
  | equals v =>
    cases read : Query.operators? v with
    | none => exact read
    | some operators =>
      exact absurd
        (fun d other => judged_spoiled_of_operators distinct flat member test read other)
        (differs c member)

end Condition

/-- The exact reach of the agreement between a set of filters and its predicate. -/
theorem Filters.predicate_agrees_iff (o : Object) (valid : o.WellFormed) (cs : List Condition)
    (parsed : (Filters.ofObject o).conditions = .ok cs) :
    (∀ (place : Place) (payload : Object), payload.WellFormed →
        place.judge (Filters.ofObject o) payload = .ok (cs.all (·.holds payload))) ↔
      (∀ c ∈ cs, c.Plain) ∨
        (∃ c ∈ cs, c.test = .oneOf []) ∧
          ∀ (place : Place) (payload : Object) (cause : Failure), payload.WellFormed →
            place.judge (Filters.ofObject o) payload ≠ .error cause := by
  constructor
  · intro agree
    by_cases impossible : ∃ c ∈ cs, c.test = .oneOf []
    · refine .inr ⟨impossible, fun place payload cause wellFormed failed => ?_⟩
      rw [agree place payload wellFormed] at failed
      cases failed
    · refine .inl (Condition.plain_of_agrees (conditions_distinct parsed)
        (conditions_wellFormed valid parsed)
        (fun c member never => impossible ⟨c, member, never⟩) fun payload wellFormed => ?_)
      rw [← Place.stored.judge_eq parsed]
      exact agree .stored payload wellFormed
  · rintro (plain | ⟨⟨c, member, never⟩, total⟩) place payload wellFormed
    · rw [place.judge_eq parsed]
      exact Condition.allJudged_of_judged fun c member => (plain c member).judged payload
    · -- the empty choice is met by nothing, so the store can only answer no
      have unmet : cs.all (·.holds payload) = false :=
        List.all_eq_false.mpr ⟨c, member, by simp [Condition.holds, never, Test.holds]⟩
      rw [unmet]
      cases outcome : place.judge (Filters.ofObject o) payload with
      | error cause => exact absurd outcome (total place payload cause wellFormed)
      | ok b =>
        cases b with
        | false => rfl
        | true =>
          rw [place.judge_eq parsed, Condition.allJudged_eq_true] at outcome
          have met := outcome c member
          simp [Condition.judged, never, Test.judged] at met

theorem Filters.predicate_agrees_choice :
    Object.WellFormed [("n", .object [("in", .array [.ofInt 1, .null])])] ∧
      (Filters.ofObject [("n", .object [("in", .array [.ofInt 1, .null])])]).conditions =
        .ok [⟨"n", .oneOf [.ofInt 1, .null]⟩] ∧
      ∀ (place : Place) (payload : Object), payload.WellFormed →
        place.judge (Filters.ofObject [("n", .object [("in", .array [.ofInt 1, .null])])]) payload =
          .ok (List.all [⟨"n", .oneOf [.ofInt 1, .null]⟩] (Condition.holds · payload)) := by
  have valid : Object.WellFormed [("n", .object [("in", .array [.ofInt 1, .null])])] := by
    simp [Object.WellFormed, Json.WellFormed, Json.WellFormedEntries, Json.WellFormedList,
      Json.ofInt, Number.Valid, Number.inRange, Word.bound64]
  refine ⟨valid, rfl, (Filters.predicate_agrees_iff _ valid _ rfl).mpr (.inl ?_)⟩
  intro c member
  obtain rfl := List.mem_singleton.mp member
  exact ⟨by decide, trivial⟩

/-- An equality with the object `{"$gt": 3}` is not met by 5, but the store compares 5 with 3. -/
theorem Filters.predicate_reads_operator :
    (Filters.ofObject [("n", .object [("eq", .object [("$gt", .ofInt 3)])])]).conditions =
        .ok [⟨"n", .equals (.object [("$gt", .ofInt 3)])⟩] ∧
      Condition.holds ⟨"n", .equals (.object [("$gt", .ofInt 3)])⟩ [("n", .ofInt 5)] = false ∧
      Place.stored.judge (Filters.ofObject [("n", .object [("eq", .object [("$gt", .ofInt 3)])])])
        [("n", .ofInt 5)] = .ok true :=
  ⟨rfl, rfl, rfl⟩

end MemoryBank
