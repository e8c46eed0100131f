import Listing.Memory.Sorting
import Mathlib.Data.List.Induction
import Mathlib.Order.Compare
import Mathlib.Order.Lattice

/-!
# Sorted elements

If elements are compared by keys in a line, then sorting puts them in the order of their keys
(`pairwise_sortStable`), and elements with the same key keep the order that they had
(`filter_sortStable`).
-/

namespace Listing.Memory

variable {α β : Type} [LinearOrder β] {less : α → α → Bool} {key : α → β} {x : α} {xs : List α}

theorem sortStable_concat (less : α → α → Bool) (xs : List α) (x : α) :
    sortStable less (xs ++ [x]) = (insertBack less x (sortStable less xs).reverse).reverse := by
  rw [sortStable, sortStable, List.foldl_append, List.foldl_cons, List.foldl_nil,
    List.reverse_reverse]

theorem mem_sortStable : x ∈ sortStable less xs ↔ x ∈ xs :=
  (sortStable_perm less xs).mem_iff

/-! ## One insertion -/

/-- The elements before the inserted one, which are given last element first, stay in the order of
their keys. -/
theorem pairwise_insertBack {sorted : List α}
    (allLess : ∀ y ∈ sorted, less x y = true ↔ key x < key y)
    (sorted_pairwise : sorted.Pairwise fun later earlier => key earlier ≤ key later) :
    (insertBack less x sorted).Pairwise fun later earlier => key earlier ≤ key later := by
  induction sorted with
  | nil => exact List.pairwise_singleton ..
  | cons y rest ih =>
      rcases List.pairwise_cons.mp sorted_pairwise with ⟨allFirst, rest_pairwise⟩
      have less_iff := allLess y List.mem_cons_self
      rw [insertBack]
      split
      · next lt =>
          refine List.pairwise_cons.mpr
            ⟨?_, ih (fun z z_mem => allLess z (.tail y z_mem)) rest_pairwise⟩
          intro z z_mem
          rcases List.mem_cons.mp ((insertBack_perm less x rest).mem_iff.mp z_mem) with rfl | z_mem
          · exact le_of_lt (less_iff.mp lt)
          · exact allFirst z z_mem
      · next nlt_ne =>
          have le : key y ≤ key x := not_lt.mp fun lt => nlt_ne (less_iff.mpr lt)
          refine List.pairwise_cons.mpr ⟨?_, sorted_pairwise⟩
          intro z z_mem
          rcases List.mem_cons.mp z_mem with rfl | z_mem
          · exact le
          · exact (allFirst z z_mem).trans le

theorem filter_insertBack {sorted : List α}
    (allLess : ∀ y ∈ sorted, less x y = true ↔ key x < key y) (place : β) :
    (insertBack less x sorted).filter (fun y => decide (key y = place)) =
      (x :: sorted).filter fun y => decide (key y = place) := by
  induction sorted with
  | nil => rfl
  | cons y rest ih =>
      rw [insertBack]
      split
      · next lt =>
          have ne : key x ≠ key y := ne_of_lt ((allLess y List.mem_cons_self).mp lt)
          have rest_eq := ih fun z z_mem => allLess z (.tail y z_mem)
          by_cases y_eq : key y = place
          · have x_ne : key x ≠ place := y_eq ▸ ne
            simpa [List.filter_cons, x_ne, y_eq] using rest_eq
          · simpa [List.filter_cons, y_eq] using rest_eq
      · rfl

/-! ## Sorting -/

/-- Sorted elements are in the order of their keys. -/
theorem pairwise_sortStable (allLess : ∀ x ∈ xs, ∀ y ∈ xs, less x y = true ↔ key x < key y) :
    (sortStable less xs).Pairwise fun x y => key x ≤ key y := by
  induction xs using List.reverseRecOn with
  | nil => exact List.Pairwise.nil
  | append_singleton xs x ih =>
      have sorted := ih fun y y_mem z z_mem =>
        allLess y (List.mem_append_left _ y_mem) z (List.mem_append_left _ z_mem)
      rw [sortStable_concat, List.pairwise_reverse]
      apply pairwise_insertBack
      · intro y y_mem
        have mem := mem_sortStable.mp (List.mem_reverse.mp y_mem)
        exact allLess x (by simp) y (List.mem_append_left _ mem)
      · exact List.pairwise_reverse.mpr (by simpa using sorted)

/-- Sorted elements with one key are in the order that they had. -/
theorem filter_sortStable (allLess : ∀ x ∈ xs, ∀ y ∈ xs, less x y = true ↔ key x < key y)
    (place : β) :
    (sortStable less xs).filter (fun x => decide (key x = place)) =
      xs.filter fun x => decide (key x = place) := by
  induction xs using List.reverseRecOn with
  | nil => rfl
  | append_singleton xs x ih =>
      have rest_eq := ih fun y y_mem z z_mem =>
        allLess y (List.mem_append_left _ y_mem) z (List.mem_append_left _ z_mem)
      have inserts : ∀ y ∈ (sortStable less xs).reverse, less x y = true ↔ key x < key y := by
        intro y y_mem
        have mem := mem_sortStable.mp (List.mem_reverse.mp y_mem)
        exact allLess x (by simp) y (List.mem_append_left _ mem)
      rw [sortStable_concat, List.filter_reverse, filter_insertBack inserts, ← List.filter_reverse,
        List.reverse_cons, List.reverse_reverse, List.filter_append, List.filter_append, rest_eq]

end Listing.Memory
