import Mathlib.Data.List.Pairwise
import MemoryBank.Proofs.Number.Widening
import MemoryBank.Proofs.Sorting
import MemoryBank.Proofs.Store.Searching

set_option autoImplicit false

/-!
In which order a search gives its hits, whatever the store replies.
-/

namespace MemoryBank

namespace StoredMemory

/-- The score that counts for the order. -/
def ranked (m : StoredMemory) : Single := m.score.getD .least

theorem rank_eq (m : StoredMemory) : m.rank = m.ranked.rank := rfl

/-- The better score comes first and, of equal numbers, the smaller id. -/
def Precedes (a b : StoredMemory) : Prop :=
  b.ranked.toFloat < a.ranked.toFloat ∨ (a.ranked.toFloat == b.ranked.toFloat) = true ∧ a.id < b.id

theorem before_eq_true {a b : StoredMemory} :
    before a b = true ↔ b.rank < a.rank ∨ a.rank = b.rank ∧ a.id < b.id := by
  simp [before]

theorem before_eq_false {a b : StoredMemory} :
    before a b = false ↔ a.rank < b.rank ∨ a.rank = b.rank ∧ b.id ≤ a.id := by
  rw [← Bool.not_eq_true, before_eq_true, ← String.not_lt]
  constructor
  · intro not
    by_cases same : a.rank = b.rank
    · exact .inr ⟨same, fun smaller => not (.inr ⟨same, smaller⟩)⟩
    · exact .inl (by omega)
  · rintro (worse | ⟨same, notSmaller⟩) (better | ⟨same', smaller⟩)
    · omega
    · omega
    · omega
    · exact notSmaller smaller

theorem orders_before : Orders before where
  asymm {a b} first := by
    refine before_eq_false.mpr ?_
    rcases before_eq_true.mp first with better | ⟨same, smaller⟩
    · exact .inl better
    · exact .inr ⟨same.symm, String.not_lt.mp (String.lt_asymm smaller)⟩
  negTrans {a b c} first second := by
    refine before_eq_false.mpr ?_
    rcases before_eq_false.mp first with worse | ⟨same, behind⟩ <;>
      rcases before_eq_false.mp second with worse' | ⟨same', behind'⟩
    · exact .inl (by omega)
    · exact .inl (by omega)
    · exact .inl (by omega)
    · exact .inr ⟨same.trans same', String.le_trans behind' behind⟩

/-- One memory stands in front of another for the sign of a zero alone. -/
def Misplaced (a b : StoredMemory) : Prop :=
  a.score = some .zero ∧ b.score = some .negativeZero ∧ b.id < a.id

theorem score_of_ranked {m : StoredMemory} {x : Single} (ranks : m.ranked = x)
    (other : x ≠ .least) : m.score = some x := by
  unfold ranked at ranks
  cases scored : m.score with
  | none =>
    rw [scored] at ranks
    exact absurd ranks.symm other
  | some y =>
    rw [scored] at ranks
    exact congrArg some ranks

theorem before_of_lt {a b : StoredMemory} (less : a.ranked.toFloat < b.ranked.toFloat) :
    before b a = true :=
  before_eq_true.mpr (.inl (Single.rank_lt_of_signed_lt (Single.lt_toFloat.mp less).2.2))

theorem Misplaced.precedes {a b : StoredMemory} (misplaced : a.Misplaced b) : b.Precedes a := by
  obtain ⟨zero, negative, smaller⟩ := misplaced
  refine .inr ⟨?_, smaller⟩
  rw [ranked, ranked, zero, negative]
  rfl

theorem Misplaced.before {a b : StoredMemory} (misplaced : a.Misplaced b) :
    before a b = true := by
  obtain ⟨zero, negative, -⟩ := misplaced
  refine before_eq_true.mpr (.inl ?_)
  rw [rank_eq, rank_eq, ranked, ranked, zero, negative]
  decide

theorem precedes_iff_misplaced {a b : StoredMemory} (inFront : before b a = false) :
    b.Precedes a ↔ a.Misplaced b := by
  refine ⟨?_, Misplaced.precedes⟩
  rintro (better | ⟨equal, smaller⟩)
  · cases inFront.symm.trans (before_of_lt better)
  · obtain ⟨-, -, equal⟩ := Single.beq_toFloat.mp equal
    rcases before_eq_false.mp inFront with worse | ⟨-, behind⟩
    · obtain ⟨negative, zero⟩ := Single.zeros_of_rank_lt worse equal
      exact ⟨score_of_ranked zero (by decide), score_of_ranked negative (by decide), smaller⟩
    · exact absurd smaller (String.not_lt.mpr behind)

end StoredMemory

namespace VectorStore

/-- The hits are the front of all rows in the order of `before`, and the rest is left out. -/
theorem hits_eq_ok {kind : IndexKind} {count : Nat} {rows : List Document}
    {ms : List StoredMemory} (read : hits kind count rows = .ok ms) :
    ∃ found left, rows.mapM (StoredMemory.ofRow kind) = .ok found ∧ (ms ++ left).Perm found ∧
      ms.length = min count rows.length ∧
        (ms ++ left).Pairwise fun a b => StoredMemory.before b a = false := by
  obtain ⟨found, mapped, value⟩ := Fallible.bind_eq_ok.mp read
  obtain rfl := Except.ok.inj value
  refine ⟨found, (stableSort StoredMemory.before found).drop count, mapped, ?_, ?_, ?_⟩
  · rw [List.take_append_drop]
    exact stableSort_perm _ _
  · rw [List.length_take, (stableSort_perm _ _).length_eq, Fallible.length_of_mapM mapped]
  · rw [List.take_append_drop]
    exact stableSort_pairwise StoredMemory.orders_before found

/-- Whatever rows a store replies: the hits are decoded rows, as many as were asked for, of which
none has a better score than one in front of it or than one left out. Where scores are equal the
smaller id comes first, unless one of them is minus zero and the other is zero. -/
theorem search_ranked {σ : Type} [DocumentStore σ] (v : VectorStore) (vector : Embedding)
    (count : Nat) (filters : Filters) {w w' : World σ} {ms : List StoredMemory}
    (searched : Task.run (v.search vector count filters) w = (.ok ms, w')) :
    ∃ filter status w₁ rows found left, filters.predicate? searchedPayloadPath = .ok filter ∧
      Task.run v.ensureIndex w = (.ok status, w₁) ∧
      Task.run (Task.call (.aggregate v.collection
        (SimilarityQuery.pipeline status.effective vector count filter))) w₁ = (.ok rows, w') ∧
      rows.mapM (StoredMemory.ofRow status.effective) = .ok found ∧
      (ms ++ left).Perm found ∧ ms.length = min count rows.length ∧
      (ms.Pairwise fun a b => ¬a.ranked.toFloat < b.ranked.toFloat) ∧
      (∀ m ∈ ms, ∀ other ∈ left, ¬m.ranked.toFloat < other.ranked.toFloat) ∧
      ((ms.Pairwise (fun a b => ¬b.Precedes a) ∧ ∀ m ∈ ms, ∀ other ∈ left, ¬other.Precedes m) ↔
        ∀ m ∈ ms, ∀ other ∈ found, m.score = some .zero → other.score = some .negativeZero →
          ¬other.id < m.id) := by
  obtain ⟨filter, status, w₁, rows, written, ensured, called, read⟩ := rows_of_search searched
  obtain ⟨found, left, mapped, permuted, length, ordered⟩ := hits_eq_ok read
  obtain ⟨within, -, across⟩ := List.pairwise_append.mp ordered
  have worse {a b : StoredMemory} (inFront : StoredMemory.before b a = false) :
      ¬a.ranked.toFloat < b.ranked.toFloat := fun less =>
    Bool.false_ne_true (inFront.symm.trans (StoredMemory.before_of_lt less))
  refine ⟨filter, status, w₁, rows, found, left, written, ensured, called, mapped, permuted, length,
    within.imp worse, fun m hit other beyond => worse (across m hit other beyond), ?_⟩
  constructor
  · rintro ⟨hits, beyond⟩ m hit other among zero negative smaller
    have misplaced : m.Misplaced other := ⟨zero, negative, smaller⟩
    rcases List.mem_append.mp (permuted.mem_iff.mpr among) with shown | out
    · -- of two hits either may stand in front, and neither is misplaced
      have symmetric : Std.Symm fun a b : StoredMemory => ¬a.Misplaced b ∧ ¬b.Misplaced a :=
        ⟨fun _ _ h => ⟨h.2, h.1⟩⟩
      have neither : ms.Pairwise fun a b => ¬a.Misplaced b ∧ ¬b.Misplaced a :=
        within.imp₂ (fun _ _ inFront rightly => ⟨fun off => rightly off.precedes, fun off =>
          Bool.false_ne_true (inFront.symm.trans off.before)⟩) hits
      have differ : m ≠ other := by
        rintro rfl
        exact String.lt_irrefl _ smaller
      exact (neither.forall hit shown differ).1 misplaced
    · exact beyond m hit other out misplaced.precedes
  · intro placed
    have rightly {a b : StoredMemory} (hit : a ∈ ms) (among : b ∈ ms ++ left)
        (inFront : StoredMemory.before b a = false) : ¬b.Precedes a := by
      rw [StoredMemory.precedes_iff_misplaced inFront]
      rintro ⟨zero, negative, smaller⟩
      exact placed a hit b (permuted.mem_iff.mp among) zero negative smaller
    exact ⟨within.imp_of_mem fun hit among => rightly hit (List.mem_append_left _ among),
      fun m hit other out => rightly hit (List.mem_append_right _ out) (across m hit other out)⟩

/-- A store of two memories, put in against the order of their ids. -/
def twoStored (dimensions : Nat) (first second : Embedding) : World Database :=
  (Task.run (insert ⟨⟨"memories", dimensions, .diskann, 0, 50⟩⟩ ["b", "a"] [first, second]
    [.new "t" .fact ⟨some "u", none, none⟩, .new "t" .fact ⟨some "u", none, none⟩])
    ⟨.empty, .empty⟩).2

theorem search_ranked_equal_scores :
    (Task.run (search ⟨⟨"memories", 1, .diskann, 0, 50⟩⟩ [.ofInt 1] 2 .empty)
        (twoStored 1 [.ofInt 1] [.ofInt 1])).1.toOption.map (·.map (·.id)) = some ["a", "b"] ∧
      ∃ ms w', Task.run (search ⟨⟨"memories", 1, .diskann, 0, 50⟩⟩ [.ofInt 1] 2 .empty)
        (twoStored 1 [.ofInt 1] [.ofInt 1]) = (.ok ms, w') ∧
          ms.Pairwise fun a b => ¬b.Precedes a := by
  refine ⟨by decide +kernel, ?_⟩
  obtain ⟨ms, w', searched, scores⟩ := Task.run_ok_of_map
    (t := search ⟨⟨"memories", 1, .diskann, 0, 50⟩⟩ [.ofInt 1] 2 .empty)
    (w := twoStored 1 [.ofInt 1] [.ofInt 1]) (f := fun ms => ms.map (·.score))
    (b := [some (.ofInt 1), some (.ofInt 1)]) (by decide +kernel)
  refine ⟨ms, w', searched, ?_⟩
  obtain ⟨_, _, _, _, found, left, -, -, -, -, -, -, -, -, placed⟩ := search_ranked _ _ _ _ searched
  refine (placed.mpr fun m hit other _ zero _ _ => ?_).1
  have scored : some Single.zero ∈ [some (Single.ofInt 1), some (Single.ofInt 1)] :=
    scores ▸ zero ▸ List.mem_map_of_mem hit
  exact absurd scored (by decide)

/-- The products with the query are zero and minus zero, which are equal numbers. -/
theorem search_tells_zeros_apart :
    (Task.run (search ⟨⟨"memories", 2, .diskann, 0, 50⟩⟩ [.ofInt 1, .ofInt 0] 2 .empty)
        (twoStored 2 [.ofInt 0, .ofInt 1] [.negativeZero, .ofInt (-1)])).1.toOption.map
          (·.map fun m => (m.id, m.score)) =
        some [("b", some .zero), ("a", some .negativeZero)] ∧
      (Single.zero.toFloat == Single.negativeZero.toFloat) = true := by
  decide +kernel

end VectorStore

end MemoryBank
