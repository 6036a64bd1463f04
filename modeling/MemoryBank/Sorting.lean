set_option autoImplicit false

/-!
A stable sort: an item moves in front of those it comes before, and of no others.
-/

namespace MemoryBank

variable {α : Type}

def placeBack (before : α → α → Bool) (a : α) : List α → List α
  | [] => [a]
  | b :: rest => if before a b then b :: placeBack before a rest else a :: b :: rest

def stableSort (before : α → α → Bool) (items : List α) : List α :=
  (items.foldl (fun sorted a => placeBack before a sorted) []).reverse

theorem placeBack_perm (before : α → α → Bool) (a : α) (sorted : List α) :
    (placeBack before a sorted).Perm (a :: sorted) := by
  induction sorted with
  | nil => exact .refl _
  | cons b rest ih =>
      unfold placeBack
      split
      · exact (ih.cons b).trans (.swap a b rest)
      · exact .refl _

theorem stableSort_perm (before : α → α → Bool) (items : List α) :
    (stableSort before items).Perm items := by
  have general : ∀ (items sorted : List α),
      (items.foldl (fun sorted a => placeBack before a sorted) sorted).Perm (items ++ sorted) := by
    intro items
    induction items with
    | nil => exact fun sorted => .refl _
    | cons a rest ih =>
        intro sorted
        exact (ih _).trans (((placeBack_perm before a sorted).append_left rest).trans
          List.perm_middle)
  exact (List.reverse_perm _).trans (by simpa using general items [])

end MemoryBank
