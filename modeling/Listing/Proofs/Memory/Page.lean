import Listing.Page
import Listing.Proofs.Memory.Matching

/-!
# Pages of rows held in memory

A query on stored rows always answers.  Its page holds the rows of the query, which are at most as
many as its limit, and names the number of all rows that meet its conditions
(`Query.compile_eq`): the limit, the offset and the orderings have no part in that number.
-/

namespace Listing.Memory

namespace Query

theorem ordered_perm (query : Query) : query.ordered.Perm query.matching :=
  sortStable_perm ..

theorem length_evaluate_of_unpaged {query : Query} (limit_eq : query.limit = none)
    (offset_eq : query.offset = none) : query.evaluate.length = query.matching.length := by
  rw [evaluate, limit_eq, offset_eq, paged]
  exact query.ordered_perm.length_eq

theorem length_evaluate_le {query : Query} {rows : Nat} (limit_eq : query.limit = some rows) :
    query.evaluate.length ≤ rows := by
  rw [evaluate, limit_eq, paged]
  exact List.length_take_le ..

theorem matching_strip (query : Query) :
    (Source.attempt query .stripPagination).matching = query.matching := by
  have idle : [Call.stripPagination].filter Call.narrows = [].filter Call.narrows := rfl
  exact query.matching_attemptAll_congr idle

/-- A query answers with its rows and the number of all matching ones. -/
theorem compile_eq (query : Query) :
    Page.compile query =
      .done ⟨⟨query.limit, query.offset.getD 0, query.matching.length⟩,
        query.evaluate.map .object⟩ := by
  have count_eq : Source.count (Source.attempt query .stripPagination) =
      Run.done query.matching.length := by
    rw [← matching_strip, ← length_evaluate_of_unpaged rfl rfl]
    rfl
  rw [Page.compile, Page.compileWith, count_eq]
  rfl

/-! ## Pages of one order -/

theorem matching_attemptAll_of_isPage {calls : List Call} (onlyPages : ∀ call ∈ calls, call.isPage)
    (query : Query) : (Source.attemptAll query calls).matching = query.matching := by
  have idle : calls.filter Call.narrows = [].filter Call.narrows :=
    Call.filter_narrows_eq_nil fun call call_mem => Call.narrows_of_isPage (onlyPages call call_mem)
  exact query.matching_attemptAll_congr idle

theorem orderings_attemptAll_of_isPage {calls : List Call} (onlyPages : ∀ call ∈ calls, call.isPage)
    (query : Query) : (Source.attemptAll query calls).orderings = query.orderings := by
  induction calls generalizing query with
  | nil => rfl
  | cons call calls ih =>
      have isPage := onlyPages call List.mem_cons_self
      have first_eq : (Source.attempt query call).orderings = query.orderings := by
        cases call with
        | limit rows | offset rows =>
            simp [Source.attempt, Source.perform, perform, record, orderings]
        | _ => cases isPage
      exact (ih (fun other other_mem => onlyPages other (List.mem_cons_of_mem _ other_mem)) _).trans
        first_eq

theorem ordered_attemptAll_of_isPage {calls : List Call} (onlyPages : ∀ call ∈ calls, call.isPage)
    (query : Query) : (Source.attemptAll query calls).ordered = query.ordered := by
  rw [ordered, ordered, matching_attemptAll_of_isPage onlyPages,
    orderings_attemptAll_of_isPage onlyPages]

theorem limit_attemptAll_eq_none {query : Query} (fresh : query.limit = none) {calls : List Call}
    (allCalls : ∀ call ∈ calls, call.limit? = none) :
    (Source.attemptAll query calls).limit = none := by
  induction calls generalizing query with
  | nil => exact fresh
  | cons call calls ih =>
      refine ih ?_ fun other other_mem => allCalls other (List.mem_cons_of_mem _ other_mem)
      have call_eq := allCalls call List.mem_cons_self
      cases call with
      | limit rows => cases call_eq
      | stripPagination => rfl
      | applyScope name arguments =>
          simp only [Source.attempt, Source.perform, perform]
          cases (query.scopes.lookup name).isSome <;> exact fresh
      | _ => exact fresh

end Query

end Listing.Memory
