import Listing.Proofs.Memory.Page

/-!
# How stored rows are laid out

A query on stored rows puts those that match into an order and lists a part of them.  This layout
changes only with the calls that choose a page or an order (`Query.layout_attemptAll` and
`Layout.afterAll_filter`), and the rows that match change only with the calls that narrow the
listing, whatever their order is.  So two runs of calls lead to the same page if the latter are
rearranged and the former are the same (`Query.compile_attemptAll_congr`).
-/

namespace Listing.Memory

/-- The order and the page of a query. -/
structure Layout where
  orderings : List (String × Direction)
  limit : Option Nat
  offset : Option Nat

namespace Layout

/-- The layout after a call. -/
def after (layout : Layout) : Call → Layout
  | .orderBy field direction =>
      { layout with orderings := layout.orderings ++ [(field, direction)] }
  | .limit rows => { layout with limit := some rows }
  | .offset rows => { layout with offset := some rows }
  | .stripPagination => ⟨[], none, none⟩
  | _ => layout

/-- The layout after several calls. -/
def afterAll (layout : Layout) (calls : List Call) : Layout :=
  calls.foldl after layout

theorem after_of_idle {call : Call} (idle : call.isPagination = false) (layout : Layout) :
    layout.after call = layout := by
  cases call with
  | orderBy | limit | offset | stripPagination => cases idle
  | _ => rfl

/-- Calls that choose neither a page nor an order can be left out. -/
theorem afterAll_filter (layout : Layout) (calls : List Call) :
    layout.afterAll (calls.filter Call.isPagination) = layout.afterAll calls := by
  induction calls generalizing layout with
  | nil => rfl
  | cons call calls ih =>
      cases pagination_eq : call.isPagination with
      | true =>
          rw [List.filter_cons_of_pos pagination_eq]
          exact ih (layout.after call)
      | false =>
          rw [List.filter_cons_of_neg (by simp [pagination_eq]), ih]
          exact congrArg (afterAll · calls) (after_of_idle pagination_eq layout).symm

end Layout

namespace Query

/-- The layout of a query. -/
def layout (query : Query) : Layout :=
  ⟨query.orderings, query.limit, query.offset⟩

theorem orderings_strip (query : Query) :
    (Source.attempt query .stripPagination).orderings = [] := by
  refine List.filterMap_eq_nil_iff.mpr fun call call_mem => ?_
  have kept : (!call.isPagination) = true := (List.mem_filter.mp call_mem).2
  cases call with
  | orderBy => cases kept
  | _ => rfl

theorem layout_attempt (query : Query) (call : Call) :
    (Source.attempt query call).layout = query.layout.after call := by
  cases call with
  | stripPagination => exact congrArg (Layout.mk · none none) query.orderings_strip
  | applyScope name arguments =>
      by_cases known : (query.scopes.lookup name).isSome <;>
        simp [Source.attempt, Source.perform, perform, record, layout, orderings, Layout.after,
          known]
  | _ =>
      simp [Source.attempt, Source.perform, perform, record, layout, orderings, Layout.after]

theorem layout_attemptAll (query : Query) (calls : List Call) :
    (Source.attemptAll query calls).layout = query.layout.afterAll calls := by
  induction calls using List.reverseRecOn with
  | nil => rfl
  | append_singleton calls call ih =>
      rw [Source.attemptAll_concat, layout_attempt, ih, Layout.afterAll, Layout.afterAll,
        List.foldl_concat]

/-- Queries with the same matching rows in the same layout answer alike. -/
theorem compile_congr {query other : Query} (matching : query.matching = other.matching)
    (layout_eq : query.layout = other.layout) : Page.compile query = Page.compile other := by
  simp only [layout, Layout.mk.injEq] at layout_eq
  obtain ⟨orderings_eq, limit_eq, offset_eq⟩ := layout_eq
  rw [compile_eq, compile_eq, evaluate, evaluate, ordered, ordered, matching, orderings_eq,
    limit_eq, offset_eq]

/-- The same rows match after calls that narrow the listing in another order. -/
theorem matching_attemptAll_of_perm (query : Query) {calls others : List Call}
    (narrowing_perm : (calls.filter Call.narrows).Perm (others.filter Call.narrows)) :
    (Source.attemptAll query calls).matching = (Source.attemptAll query others).matching := by
  rw [matching_attemptAll, matching_attemptAll]
  apply List.filter_congr
  intro row _
  rw [← row.all_meets_filter_narrows, ← row.all_meets_filter_narrows query.scopes (_ ++ _),
    List.filter_append, List.filter_append, filter_narrows_recorded, filter_narrows_recorded]
  exact ((narrowing_perm.filter _).append_left _).all_eq

/-- Calls lead to the same page if those that narrow the listing are rearranged and those that
choose a page or an order are the same. -/
theorem compile_attemptAll_congr (query : Query) {calls others : List Call}
    (narrowing_perm : (calls.filter Call.narrows).Perm (others.filter Call.narrows))
    (layout_eq : calls.filter Call.isPagination = others.filter Call.isPagination) :
    Page.compile (Source.attemptAll query calls) =
      Page.compile (Source.attemptAll query others) := by
  apply compile_congr (query.matching_attemptAll_of_perm narrowing_perm)
  rw [layout_attemptAll, layout_attemptAll, ← Layout.afterAll_filter, layout_eq,
    Layout.afterAll_filter]

end Query

end Listing.Memory
