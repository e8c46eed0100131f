import Listing.Proofs.Memory.Page
import Listing.Proofs.Narrowing
import Listing.Proofs.Sql.Execution

/-!
# The number of all rows

The number of rows that a page names is that of all matching rows.  It depends on the conditions of
a request and not on the page or the order that the request asks for, nor on the largest page
(`Engine.total_congr`).  Stored rows are counted if they meet all calls that narrow the listing, and
a table is asked for the count by the same statement with the same values.
-/

namespace Listing

/-- Two runs fail for the same reason and execute nothing. -/
def Run.FailAlike {α β : Type} (run : Run α) (other : Run β) : Prop :=
  ∃ reason, run = .stopped (.failed reason) ∧ other = .stopped (.failed reason)

namespace Engine

variable {policy : Policy} {request : Request} {engine : Engine} {additions : List Addition}
  {config : Config}

/-! ## The rows that match -/

/-- The stored rows that match after all calls of an engine are those that met the conditions of the
query before and meet the calls that narrow the listing. -/
theorem matching_calls (made : ofRequest? policy request = .ok engine)
    (onlyOrders : ∀ call ∈ policy.defaultSorting, call.isOrdering) (query : Memory.Query) :
    (Source.attemptAll query ((engine.addAll additions).calls config)).matching =
      query.rows.filter fun row =>
        (query.log ++ query.recorded ((engine.addAll additions).narrowing config)).all
          (row.meets query.scopes) := by
  rw [query.matching_attemptAll_congr (filter_narrows_calls made onlyOrders additions config),
    Memory.Query.matching_attemptAll]

/-- The conditions of a selection after all calls of an engine are those before and those that the
calls that narrow the listing add. -/
theorem conditions_calls (made : ofRequest? policy request = .ok engine)
    (onlyOrders : ∀ call ∈ policy.defaultSorting, call.isOrdering) (query : Sql.Query) :
    (Source.attemptAll query ((engine.addAll additions).calls config)).select.conditions =
      query.select.conditions ++
        ((engine.addAll additions).narrowing config).flatMap query.added := by
  rw [Sql.Query.attemptAll_conditions, ← Sql.Query.flatMap_added_filter,
    filter_narrows_calls made onlyOrders, Sql.Query.flatMap_added_filter]

/-! ## Totals -/

/-- A listing of stored rows names the number of those that meet the calls which narrow it, unless
it fails. -/
theorem exists_page_total_eq_countP (made : ofRequest? policy request = .ok engine)
    (onlyOrders : ∀ call ∈ policy.defaultSorting, call.isOrdering) {query : Memory.Query}
    (none_missing : (engine.addAll additions).missingScope? query = none) :
    ∃ page, ((engine.addAll additions).response config query).outcome = .ok page ∧
      page.extent.total = query.rows.countP fun row =>
        (query.log ++ query.recorded ((engine.addAll additions).narrowing config)).all
          (row.meets query.scopes) := by
  rw [response_eq, none_missing, List.countP_eq_length_filter, ← matching_calls made onlyOrders]
  refine ⟨_, congrArg Run.outcome (Memory.Query.compile_eq _), rfl⟩

section

variable {otherRequest : Request} {otherEngine : Engine} {others : List Addition}

/-- Listings of stored rows that are narrowed by the same calls name the same total. -/
theorem exists_pages_total_eq (made : ofRequest? policy request = .ok engine)
    (otherMade : ofRequest? policy otherRequest = .ok otherEngine)
    (onlyOrders : ∀ call ∈ policy.defaultSorting, call.isOrdering)
    (narrowing_eq : (engine.addAll additions).narrowing config =
      (otherEngine.addAll others).narrowing config)
    {query : Memory.Query} (none_missing : (engine.addAll additions).missingScope? query = none)
    (otherScopes_eq : (otherEngine.addAll others).missingScope? query = none) :
    ∃ page otherPage, ((engine.addAll additions).response config query).outcome = .ok page ∧
      ((otherEngine.addAll others).response config query).outcome = .ok otherPage ∧
      page.extent.total = otherPage.extent.total ∧
      page.extent.total = query.rows.countP fun row =>
        (query.log ++ query.recorded ((engine.addAll additions).narrowing config)).all
          (row.meets query.scopes) := by
  obtain ⟨page, page_eq, total_eq⟩ := exists_page_total_eq_countP made onlyOrders none_missing
  obtain ⟨otherPage, otherPage_eq, otherTotal_eq⟩ :=
    exists_page_total_eq_countP otherMade onlyOrders otherScopes_eq
  rw [← narrowing_eq] at otherTotal_eq
  exact ⟨page, otherPage, page_eq, otherPage_eq, total_eq.trans otherTotal_eq.symm, total_eq⟩

/-- Selections that are narrowed by the same calls are counted by the same statement. -/
theorem counts_congr (made : ofRequest? policy request = .ok engine)
    (otherMade : ofRequest? policy otherRequest = .ok otherEngine)
    (onlyOrders : ∀ call ∈ policy.defaultSorting, call.isOrdering)
    (narrowing_eq : (engine.addAll additions).narrowing config =
      (otherEngine.addAll others).narrowing config)
    (query : Sql.Query) :
    let built := Source.attemptAll query ((engine.addAll additions).calls config)
    let otherBuilt := Source.attemptAll query ((otherEngine.addAll others).calls config)
    (Page.compile built).statements.head? =
        built.select.countStatement? query.connection.dialect ∧
      (Page.compile otherBuilt).statements.head? =
        built.select.countStatement? query.connection.dialect ∧
      ((built.select.ignoresCase → query.connection.dialect = .postgres) →
        ∃ inner, built.select.unpaged.statement? query.connection.dialect = some inner ∧
          built.select.countStatement? query.connection.dialect =
            some (inner.counting query.connection.dialect)) ∧
      ∀ page otherPage, (Page.compile built).outcome = .ok page →
        (Page.compile otherBuilt).outcome = .ok otherPage →
          page.extent.total = otherPage.extent.total := by
  intro built otherBuilt
  have base : built.SameBase query := Sql.Query.attemptAll_sameBase query _
  have otherBase : otherBuilt.SameBase query := Sql.Query.attemptAll_sameBase query _
  have conditions_eq : built.select.conditions = otherBuilt.select.conditions := by
    rw [conditions_calls made onlyOrders, conditions_calls otherMade onlyOrders, narrowing_eq]
  refine ⟨?_, ?_, Sql.Select.exists_counting, fun page otherPage => ?_⟩
  · rw [Sql.Query.compile_statements_head?, base.connection]
  · rw [Sql.Query.compile_statements_head?, otherBase.connection]
    exact Sql.Select.countStatement?_congr (otherBase.table.trans base.table.symm)
      (otherBase.columns.trans base.columns.symm) conditions_eq.symm _
  · exact Sql.Query.total_eq_of_conditions_eq (base.trans otherBase.symm) conditions_eq

end

/-- A lean request for a short page of published books, the dear ones first. -/
def dearRequest : Request :=
  ⟨some "where_status=published&sort_price=desc&limit=2&pure"⟩

/-- A request for a later page of the same books, with an order that is dropped. -/
def laterRequest : Request :=
  ⟨some "offset=1&sort_title=up&where_status=published&limit=7"⟩

end Engine

end Listing
