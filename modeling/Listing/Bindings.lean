/-!
# Bindings

Finite maps are kept as lists of pairs.  In a request, in a registry and in a table of relations a
later binding of a name replaces an earlier one; `last?` looks such a name up.  Where names have to
be visited in order, `setSorted` keeps the pairs ascending by name.
-/

namespace Listing.Bindings

variable {α β : Type}

/-- The value of the last pair with the given key. -/
def last? [DecidableEq α] (key : α) : List (α × β) → Option β
  | [] => none
  | (other, value) :: rest =>
      match last? key rest with
      | some later => some later
      | none => if other = key then some value else none

@[simp]
theorem last?_nil [DecidableEq α] (key : α) : last? key ([] : List (α × β)) = none :=
  rfl

theorem last?_append [DecidableEq α] (key : α) (pairs others : List (α × β)) :
    last? key (pairs ++ others) = (last? key others).or (last? key pairs) := by
  induction pairs with
  | nil => simp
  | cons first rest ih =>
      rw [List.cons_append, last?, ih, last?]
      cases last? key others <;> rfl

/-- A pair at the end hides the earlier pairs with its key and no others. -/
theorem last?_append_singleton [DecidableEq α] (key : α) (pairs : List (α × β)) (pair : α × β) :
    last? key (pairs ++ [pair]) = if pair.1 = key then some pair.2 else last? key pairs := by
  rw [last?_append]
  by_cases key_eq : pair.1 = key <;> simp [last?, key_eq]

theorem last?_filter [DecidableEq α] {key : α} {keep : α × β → Bool}
    (allKeep : ∀ pair, pair.1 = key → keep pair) (pairs : List (α × β)) :
    last? key (pairs.filter keep) = last? key pairs := by
  induction pairs with
  | nil => rfl
  | cons first rest ih =>
      cases keep_eq : keep first with
      | true => rw [List.filter_cons_of_pos keep_eq, last?, last?, ih]
      | false =>
          have key_ne : first.1 ≠ key := fun key_eq => by simp [allKeep first key_eq] at keep_eq
          rw [List.filter_cons_of_neg (by simp [keep_eq]), last?, ih]
          cases last? key rest <;> simp [key_ne]

theorem last?_isSome_iff [DecidableEq α] {key : α} {pairs : List (α × β)} :
    (last? key pairs).isSome ↔ ∃ value, (key, value) ∈ pairs := by
  induction pairs with
  | nil => simp
  | cons first rest ih =>
      rcases first with ⟨other, value⟩
      simp only [last?]
      cases last_eq : last? key rest with
      | some later =>
          simp only [last_eq, Option.isSome_some, true_iff] at ih
          rcases ih with ⟨found, found_mem⟩
          simp only [Option.isSome_some, true_iff]
          exact ⟨found, by simp [found_mem]⟩
      | none =>
          have allRest : ∀ found, (key, found) ∉ rest := by
            intro found found_mem
            have is_some := ih.mpr ⟨found, found_mem⟩
            simp [last_eq] at is_some
          by_cases same : other = key
          · simp [same]
          · simp [same, allRest, eq_comm (a := key)]

/-- The last pair with the given key has the given value. -/
def IsLast (key : α) (value : β) (pairs : List (α × β)) : Prop :=
  ∃ before after, pairs = before ++ (key, value) :: after ∧ ∀ pair ∈ after, pair.1 ≠ key

theorem IsLast.mem {key : α} {value : β} {pairs : List (α × β)}
    (isLast : IsLast key value pairs) : (key, value) ∈ pairs := by
  obtain ⟨before, after, rfl, _⟩ := isLast
  exact List.mem_append_right _ List.mem_cons_self

theorem last?_eq_none_iff [DecidableEq α] {key : α} {pairs : List (α × β)} :
    last? key pairs = none ↔ ∀ value, (key, value) ∉ pairs := by
  rw [← Option.not_isSome_iff_eq_none, last?_isSome_iff, not_exists]

theorem last?_eq_some_iff [DecidableEq α] {key : α} {value : β} {pairs : List (α × β)} :
    last? key pairs = some value ↔ IsLast key value pairs := by
  constructor
  · intro last_eq
    induction pairs with
    | nil => simp at last_eq
    | cons first rest ih =>
        rcases first with ⟨other, old⟩
        simp only [last?] at last_eq
        cases rest_eq : last? key rest with
        | some later =>
            rw [rest_eq, Option.some.injEq] at last_eq
            subst later
            rcases ih rest_eq with ⟨before, after, rfl, allAfter⟩
            exact ⟨(other, old) :: before, after, rfl, allAfter⟩
        | none =>
            simp only [rest_eq, Option.ite_none_right_eq_some, Option.some.injEq] at last_eq
            rcases last_eq with ⟨rfl, rfl⟩
            refine ⟨[], rest, rfl, fun pair pair_mem key_eq => ?_⟩
            exact last?_eq_none_iff.mp rest_eq pair.2 (key_eq ▸ pair_mem)
  · rintro ⟨before, after, rfl, allAfter⟩
    have eq_none : last? key after = none :=
      last?_eq_none_iff.mpr fun later later_mem => allAfter _ later_mem rfl
    induction before with
    | nil => simp [last?, eq_none]
    | cons first before ih => simp [last?, ih]

/-! ## Ascending pairs -/

/-- The keys ascend, so that no key is repeated. -/
def Ascending (pairs : List (String × β)) : Prop :=
  pairs.Pairwise fun pair other => pair.1 < other.1

/-- Binds a name among pairs in ascending order, in place of a pair with that name. -/
def setSorted (name : String) (value : β) : List (String × β) → List (String × β)
  | [] => [(name, value)]
  | (other, old) :: rest =>
      if name < other then (name, value) :: (other, old) :: rest
      else if name = other then (name, value) :: rest
      else (other, old) :: setSorted name value rest

/-- After a name is bound, its pair is the new one and all others are as before. -/
theorem mem_setSorted_iff {name : String} {value : β} {pairs : List (String × β)}
    (ascending : Ascending pairs) {pair : String × β} :
    pair ∈ setSorted name value pairs ↔
      pair = (name, value) ∨ (pair.1 ≠ name ∧ pair ∈ pairs) := by
  induction pairs with
  | nil => simp [setSorted]
  | cons first rest ih =>
      rcases first with ⟨other, old⟩
      have rest_both := List.pairwise_cons.mp ascending
      simp only [setSorted]
      split
      · rename_i less
        have absent : pair ∈ (other, old) :: rest → pair.1 ≠ name := by
          intro pair_mem name_eq
          rcases List.mem_cons.mp pair_mem with rfl | pair_mem
          · exact String.lt_irrefl name (name_eq ▸ less)
          · exact String.lt_asymm less (name_eq ▸ rest_both.1 pair pair_mem)
        simp only [List.mem_cons (a := pair) (b := (name, value))]
        grind
      · split
        · rename_i name_eq
          subst other
          have absent : pair ∈ rest → pair.1 ≠ name := by
            intro pair_mem name_eq
            exact String.lt_irrefl name (name_eq ▸ rest_both.1 pair pair_mem)
          grind
        · rename_i name_ne
          simp only [List.mem_cons, ih rest_both.2]
          grind

/-- Binding a name keeps the keys in ascending order. -/
theorem Ascending.setSorted {pairs : List (String × β)} (ascending : Ascending pairs)
    (name : String) (value : β) : Ascending (setSorted name value pairs) := by
  induction pairs with
  | nil => simp [Bindings.setSorted, Ascending]
  | cons first rest ih =>
      rcases first with ⟨other, old⟩
      have rest_both := List.pairwise_cons.mp ascending
      simp only [Bindings.setSorted]
      split
      · rename_i less
        refine List.pairwise_cons.mpr ⟨fun pair pair_mem => ?_, ascending⟩
        rcases List.mem_cons.mp pair_mem with rfl | pair_mem
        · exact less
        · exact String.lt_trans less (rest_both.1 pair pair_mem)
      · rename_i less
        split
        · rename_i name_eq
          subst other
          exact List.pairwise_cons.mpr rest_both
        · rename_i name_ne
          refine List.pairwise_cons.mpr ⟨fun pair pair_mem => ?_, ih rest_both.2⟩
          rcases (mem_setSorted_iff rest_both.2).mp pair_mem with rfl | ⟨_, pair_mem⟩
          · exact String.not_le.mp fun le =>
              name_ne (String.le_antisymm le (String.not_lt.mp less))
          · exact rest_both.1 pair pair_mem

end Listing.Bindings
