/-!
# Stable sorting

Each element is inserted into the sorted elements before it, from their end, and passes only those
that it is less than.  Equal elements therefore keep their order.
-/

namespace Listing.Memory

variable {α : Type}

/-- Inserts an element into a sorted list that is given last element first. -/
def insertBack (less : α → α → Bool) (x : α) : List α → List α
  | [] => [x]
  | y :: rest => if less x y then y :: insertBack less x rest else x :: y :: rest

/-- The elements in ascending order. -/
def sortStable (less : α → α → Bool) (xs : List α) : List α :=
  (xs.foldl (fun sorted x => insertBack less x sorted) []).reverse

theorem insertBack_perm (less : α → α → Bool) (x : α) (xs : List α) :
    (insertBack less x xs).Perm (x :: xs) := by
  induction xs with
  | nil => simp [insertBack]
  | cons y rest ih =>
      simp only [insertBack]
      split
      · exact (List.Perm.cons y ih).trans (List.Perm.swap x y rest)
      · exact List.Perm.refl _

theorem sortStable_perm (less : α → α → Bool) (xs : List α) : (sortStable less xs).Perm xs := by
  have folds : ∀ (ys sorted : List α),
      (ys.foldl (fun sorted x => insertBack less x sorted) sorted).Perm (ys ++ sorted) := by
    intro ys
    induction ys with
    | nil => intro sorted; exact List.Perm.refl _
    | cons y ys ih =>
        intro sorted
        exact (ih (insertBack less y sorted)).trans
          (((insertBack_perm less y sorted).append_left ys).trans List.perm_middle)
  simpa [sortStable] using (List.reverse_perm _).trans (folds xs [])

end Listing.Memory
