import Listing.Catalogue.Books
import Listing.Proofs.Sql.Conditions

/-!
# The statements of a listing

A listing executes two statements, one that counts and one that fetches, and stops at the first that
the store fails.  They are made from two copies of one selection, and nothing but their texts is
left in the end; that they speak of the same rows is seen from how the texts are put together.  The
fragments of a selection are those of the same selection without order and page, followed by those
of the order and the page.  The statement that counts wraps the former, and the statement that
fetches begins with them.

A selection has statements unless it leaves letter case aside in a dialect that cannot
(`Select.isExpressible_iff`).
-/

namespace Listing.Sql

/-! ## What can be expressed -/

namespace Condition

/-- Whether a pattern in the condition leaves letter case aside. -/
def ignoresCase : Condition → Bool
  | ilike .. => true
  | .exists _ _ _ condition => condition.ignoresCase
  | _ => false

theorem isExpressible_iff {dialect : Dialect} {condition : Condition} :
    condition.isExpressible dialect ↔ (condition.ignoresCase → dialect = .postgres) := by
  induction condition with
  | ilike column pattern => simp [isExpressible, ignoresCase]
  | «exists» table foreign outer condition ih => simpa only [isExpressible, ignoresCase] using ih
  | _ => simp [isExpressible, ignoresCase]

end Condition

namespace Select

/-- Whether a condition of the selection leaves letter case aside. -/
def ignoresCase (select : Select) : Bool :=
  select.conditions.any Condition.ignoresCase

/-- Only patterns without regard to letter case keep a selection from being expressed. -/
theorem isExpressible_iff {dialect : Dialect} {select : Select} :
    select.isExpressible dialect ↔ (select.ignoresCase → dialect = .postgres) := by
  simp only [isExpressible, ignoresCase, List.all_eq_true, List.any_eq_true,
    Condition.isExpressible_iff]
  constructor
  · rintro all ⟨condition, condition_mem, ignores⟩
    exact all condition condition_mem ignores
  · intro ensured condition condition_mem ignores
    exact ensured ⟨condition, condition_mem, ignores⟩

/-! ## How the two statements are put together -/

/-- The fragments of the orderings, the limit and the offset. -/
def pageFragments (dialect : Dialect) (select : Select) : List Fragment :=
  select.orderingFragments dialect ++ rowsFragments "LIMIT" select.limit ++
    rowsFragments "OFFSET" select.offset

/-- A selection is written as the selection of all matching rows, followed by order and page. -/
theorem fragments_eq_unpaged (dialect : Dialect) (select : Select) :
    select.fragments dialect =
      select.unpaged.fragments dialect ++ select.pageFragments dialect := by
  have unpaged_eq : select.unpaged.fragments dialect =
      select.headFragments dialect ++ select.conditionFragments dialect := by
    simp [fragments, orderingFragments, rowsFragments, unpaged, headFragments, conditionFragments]
  rw [unpaged_eq, fragments, pageFragments]
  simp only [List.append_assoc]

/-- The values that the orderings bind. -/
def orderingValues (dialect : Dialect) (select : Select) : List Datum :=
  select.orderings.flatMap fun key => Fragment.valuesOf (key.expression.fragments dialect)

theorem valuesOf_orderingFragments (dialect : Dialect) (select : Select) :
    Fragment.valuesOf (select.orderingFragments dialect) = select.orderingValues dialect := by
  have keyed : ∀ key : SortKey, Fragment.valuesOf (key.fragments dialect) =
      Fragment.valuesOf (key.expression.fragments dialect) := by
    intro key
    rw [SortKey.fragments, Fragment.valuesOf_append]
    exact List.append_nil _
  rw [orderingFragments, orderingValues]
  split
  · rename_i absent
    rw [absent]
    rfl
  · rw [Fragment.valuesOf_text_cons, Fragment.valuesOf_separated, List.flatMap_map]
    simp only [keyed]

theorem valuesOf_rowsFragments (word : String) (rows : Option Nat) :
    Fragment.valuesOf (rowsFragments word rows) = rows.toList.map .bigUnsigned := by
  cases rows <;> rfl

/-- Order and page bind the values of the orderings, and then the limit and the offset, as far as
they are there. -/
theorem valuesOf_pageFragments (dialect : Dialect) (select : Select) :
    Fragment.valuesOf (select.pageFragments dialect) =
      select.orderingValues dialect ++
        (select.limit.toList ++ select.offset.toList).map .bigUnsigned := by
  simp only [pageFragments, Fragment.valuesOf_append, valuesOf_orderingFragments,
    valuesOf_rowsFragments, List.map_append, List.append_assoc]

end Select

namespace Statement

/-- A statement between two texts. -/
def between (statement : Statement) (opening closing : String) : Statement :=
  ⟨opening ++ statement.text ++ closing, statement.values⟩

/-- Texts around fragments stand around their statement and bind nothing. -/
theorem ofFragments_between (dialect : Dialect) (fragments : List Fragment)
    (opening closing : String) :
    ofFragments dialect ([.text opening] ++ fragments ++ [.text closing]) =
      (ofFragments dialect fragments).between opening closing := by
  simp [ofFragments, between, Fragment.textOf, Fragment.textFrom_append, Fragment.textFrom,
    Fragment.valuesOf, String.append_assoc]

/-- The statement that counts the rows of another one. -/
def counting (dialect : Dialect) (inner : Statement) : Statement :=
  inner.between ("SELECT COUNT(*) AS " ++ Select.countColumn ++ " FROM (")
    (") AS " ++ dialect.quoteName "sub_query")

/-- A statement fetches a page of what another one fetches: it has the text of the other one,
followed by that of the order and the page, and the values of the other one, followed by those of
the orderings, the limit and the offset. -/
structure Pages (dialect : Dialect) (select : Select) (inner fetch : Statement) : Prop where
  text : fetch.text = inner.text ++
    Fragment.textFrom dialect (inner.values.length + 1) (select.pageFragments dialect)
  values : fetch.values = inner.values ++ select.orderingValues dialect ++
    (select.limit.toList ++ select.offset.toList).map .bigUnsigned

end Statement

namespace Select

variable {dialect : Dialect} {select : Select}

/-- A selection is counted by wrapping the statement for all of its rows. -/
theorem countStatement?_eq (dialect : Dialect) (select : Select) :
    select.countStatement? dialect =
      (select.unpaged.statement? dialect).map (Statement.counting dialect) := by
  have expressible : select.unpaged.isExpressible dialect = select.isExpressible dialect := rfl
  rw [countStatement?, statement?, expressible, Statement.ofFragments_between]
  cases select.isExpressible dialect <;> rfl

theorem countStatement?_of_unpaged {inner : Statement}
    (inner_eq : select.unpaged.statement? dialect = some inner) :
    select.countStatement? dialect = some (inner.counting dialect) := by
  rw [countStatement?_eq, inner_eq, Option.map_some]

/-- A selection that can be expressed has a statement for its page and one for all of its rows, of
which the former is a page. -/
theorem exists_statements (expressible : select.ignoresCase → dialect = .postgres) :
    ∃ inner fetch, select.unpaged.statement? dialect = some inner ∧
      select.statement? dialect = some fetch ∧ Statement.Pages dialect select inner fetch := by
  have isExpressible : select.isExpressible dialect := isExpressible_iff.mpr expressible
  refine ⟨_, _, if_pos isExpressible, if_pos isExpressible, ?_⟩
  constructor
  · simp only [Statement.ofFragments, Fragment.textOf, fragments_eq_unpaged dialect select,
      Fragment.textFrom_append, Nat.add_comm]
  · simp only [Statement.ofFragments, fragments_eq_unpaged dialect select,
      Fragment.valuesOf_append, valuesOf_pageFragments, List.append_assoc]

theorem exists_counting (expressible : select.ignoresCase → dialect = .postgres) :
    ∃ inner, select.unpaged.statement? dialect = some inner ∧
      select.countStatement? dialect = some (inner.counting dialect) := by
  obtain ⟨inner, _, inner_eq, _, _⟩ := exists_statements expressible
  exact ⟨inner, inner_eq, countStatement?_of_unpaged inner_eq⟩

end Select

/-! ## Their execution -/

/-- What a connection answers to a statement that fetches: the rows as listed rows, unless one of
them is unreadable. -/
def Connection.listed (connection : Connection) (entity : Entity) :
    Except StoreError (List Json) := do
  let rows ← connection.fetchAnswer
  rows.mapM fun row => do
    return .object (← entity.read row)

/-- The statements that count and fetch are executed in this order, and a failure of the store ends
the run. -/
theorem Query.compile_eq {query : Query} {count fetch : Statement}
    (count_eq : query.select.countStatement? query.connection.dialect = some count)
    (fetch_eq : query.select.statement? query.connection.dialect = some fetch) :
    Page.compile query =
      match query.connection.counted with
      | .error error => ⟨[count], .error (.failed (.store error))⟩
      | .ok total =>
          match query.connection.listed query.entity with
          | .error error => ⟨[count, fetch], .error (.failed (.store error))⟩
          | .ok rows =>
              ⟨[count, fetch], .ok ⟨⟨query.limit, query.offset.getD 0, total⟩, rows⟩⟩ := by
  have listed : Source.fetch query =
      executed (some fetch) (query.connection.listed query.entity) := by
    rw [← fetch_eq]
    rfl
  rw [Page.compile, Page.compileWith, count_strip_eq, count_eq, listed]
  cases query.connection.counted with
  | error error => rfl
  | ok total => cases query.connection.listed query.entity <;> rfl

end Listing.Sql

namespace Listing.Engine

open Sql (Statement)

/-- A listing of a table executes nothing if its query is not built.  Otherwise it executes the
statement that counts, and, if that was answered, the statement that fetches; the error of the store
ends it, as it is and without a page.  The page names the limit and the offset of the query and the
counted number.  The statement that fetches is that of the selection, and it pages what the
statement that counts wraps: the same selection without orderings, limit and offset, and without the
values that these bind. -/
theorem response_executes (engine : Engine) (config : Config) (query : Sql.Query) :
    (∀ reason, engine.builder config query = .error reason →
      engine.response config query = .stopped (.failed reason)) ∧
    ∀ built, engine.builder config query = .ok built →
      (built.select.ignoresCase → query.connection.dialect = .postgres) →
        ∃ inner fetch limit offset,
          built.select.unpaged.statement? query.connection.dialect = some inner ∧
          built.select.statement? query.connection.dialect = some fetch ∧
          Statement.Pages query.connection.dialect built.select inner fetch ∧
          Source.pagination built = (limit, some offset) ∧
          engine.response config query =
            match query.connection.counted with
            | .error error =>
                ⟨[inner.counting query.connection.dialect], .error (.failed (.store error))⟩
            | .ok total =>
                match query.connection.listed query.entity with
                | .error error =>
                    ⟨[inner.counting query.connection.dialect, fetch],
                      .error (.failed (.store error))⟩
                | .ok rows =>
                    ⟨[inner.counting query.connection.dialect, fetch],
                      .ok ⟨⟨limit, offset, total⟩, rows⟩⟩ := by
  constructor
  · intro reason failed
    exact response_of_builder_error failed
  · intro built built_eq expressible
    have base : built.SameBase query := by
      obtain ⟨_, rfl⟩ := builder_eq_ok_iff.mp built_eq
      exact Sql.Query.attemptAll_sameBase query _
    have page_eq := pagination_of_builder built_eq
    rw [← base.connection] at expressible ⊢
    rw [← base.entity]
    obtain ⟨inner, fetch, inner_eq, fetch_eq, pages⟩ := Sql.Select.exists_statements expressible
    have count_eq := Sql.Select.countStatement?_of_unpaged inner_eq
    have offset_eq : built.offset = some engine.offset := congrArg Prod.snd page_eq
    refine ⟨inner, fetch, built.limit, engine.offset, inner_eq, fetch_eq, pages, ?_, ?_⟩
    · exact congrArg (built.limit, ·) offset_eq
    · rw [response_of_builder built_eq, Sql.Query.compile_eq count_eq fetch_eq, offset_eq]
      rfl

/-! ## A listing with a favourite -/

/-- The expression that tells whether a column has a value. -/
def isEqual (column : Sql.ColumnRef) (value : Sql.Datum) : Sql.Expression where
  fragments dialect := [.text (column.render dialect ++ " = "), .bind value]
  inert dialect := by
    have sign : dialect.Inert " = " := Sql.Dialect.inert_of_isPlain (by decide)
    simp [column.inert_render.append sign]

/-- Puts the book with a title before others that are tied with it. -/
def favouriteScope : Sql.Scope := fun arguments =>
  match arguments with
  | [.string title] =>
      [.orderBy ⟨isEqual ⟨some Catalogue.Books.entity.table, "title"⟩ (.text title), .descending⟩]
  | _ => []

/-- The query that lists the table of books, with that scope. -/
def favouriteQuery (connection : Sql.Connection) : Sql.Query :=
  (Catalogue.Books.query connection).withScope "favourite" favouriteScope

/-- A request for the published books after the most expensive one. -/
def dearestRequest : Request :=
  ⟨some "where_status=published&sort_price=desc&limit=2&offset=1"⟩

/-- The answers of a store that gives a number as the count and fetches one book. -/
def answers (counter : Int) : Sql.Connection where
  dialect := .sqlite
  countAnswer := .ok (some [(Sql.Select.countColumn, .int counter)])
  fetchAnswer := .ok [[("id", .int 2), ("title", .text "Rust Atomics"), ("price", .int 30),
    ("status", .text "published"), ("published", .bool true)]]

/-- The engine for that request. -/
def dearestEngine : Engine :=
  let pairs := [("where_status", "published"), ("sort_price", "desc"), ("limit", "2"),
    ("offset", "1")]
  { policy := Catalogue.Books.tablePolicy, request := dearestRequest,
    params := Catalogue.Books.tablePolicy.keepAll pairs, paging := .ofPairs pairs }

theorem ofRequest?_dearestRequest :
    ofRequest? Catalogue.Books.tablePolicy dearestRequest = .ok dearestEngine := by
  have pairs_eq : dearestRequest.pairs = [("where_status", "published"), ("sort_price", "desc"),
      ("limit", "2"), ("offset", "1")] := by decide +kernel
  rw [ofRequest?_of_check _ _ rfl, pairs_eq]
  rfl

/-- That engine with a favourite book. -/
def favouriteEngine : Engine :=
  dearestEngine.withScope "favourite" [.string "Rust Atomics"]

theorem builder_favouriteEngine (counter : Int) :
    favouriteEngine.builder {} (favouriteQuery (answers counter)) =
      .ok (Source.attemptAll (favouriteQuery (answers counter)) (favouriteEngine.calls {})) :=
  builder_eq_ok_iff.mpr ⟨rfl, rfl⟩

theorem response_executes_favourite :
    ofRequest? Catalogue.Books.tablePolicy dearestRequest = .ok dearestEngine ∧
      (favouriteEngine.withScope "missing" []).response {} (favouriteQuery (answers 2)) =
        .stopped (.failed (.unknownScope "missing")) ∧
      ∃ inner fetch rows,
        favouriteEngine.response {} (favouriteQuery (answers 2)) =
          ⟨[Statement.counting .sqlite inner, fetch], .ok ⟨⟨some 2, 1, 2⟩, rows⟩⟩ ∧
        fetch.text = "SELECT \"books\".\"id\", \"books\".\"title\", \"books\".\"price\", " ++
          "\"books\".\"status\", \"books\".\"published\" FROM \"books\" WHERE " ++
          "\"books\".\"status\" IN (?) ORDER BY \"books\".\"price\" DESC, " ++
          "\"books\".\"title\" = ? DESC LIMIT ? OFFSET ?" ∧
        fetch.values =
          inner.values ++ [.text "Rust Atomics"] ++ [.bigUnsigned 2, .bigUnsigned 1] := by
  let query := favouriteQuery (answers 2)
  let built := Source.attemptAll query (favouriteEngine.calls {})
  refine ⟨ofRequest?_dearestRequest, ?_, ?_⟩
  · apply (response_executes _ {} query).1
    have absent : (favouriteEngine.withScope "missing" []).missingScope? query =
        some "missing" := by
      decide +kernel
    rw [builder_eq, absent]
  · obtain ⟨inner, fetch, limit, offset, _, fetch_eq, pages, page_eq, response_eq⟩ :=
      (response_executes favouriteEngine {} query).2 built (builder_favouriteEngine 2)
        (by decide +kernel)
    have text_eq := congrArg (Option.map Statement.text) fetch_eq
    have page : Source.pagination built = (some 2, some 1) := by decide +kernel
    obtain ⟨rfl, offset_eq⟩ := Prod.mk.inj (page.symm.trans page_eq)
    obtain rfl := Option.some.inj offset_eq
    obtain ⟨rows, rows_eq⟩ : ∃ rows, query.connection.listed query.entity = .ok rows := ⟨_, rfl⟩
    rw [(rfl : query.connection.counted = .ok 2), rows_eq] at response_eq
    exact ⟨inner, fetch, rows, response_eq,
      Option.some.inj (text_eq.symm.trans (by decide +kernel)), pages.values⟩

/-- A page binds more behind the values of the count than the limit and the offset, and a counter
below zero is not the total. -/
theorem not_values_before_page :
    ofRequest? Catalogue.Books.tablePolicy dearestRequest = .ok dearestEngine ∧
      ∃ count fetch rows,
        favouriteEngine.response {} (favouriteQuery (answers (-1))) =
          ⟨[count, fetch], .ok ⟨⟨some 2, 1, 18446744073709551615⟩, rows⟩⟩ ∧
        count.values = [.text "published"] ∧
        fetch.values = [.text "published", .text "Rust Atomics", .bigUnsigned 2, .bigUnsigned 1] ∧
        fetch.values ≠ count.values ++ [.bigUnsigned 2, .bigUnsigned 1] := by
  refine ⟨ofRequest?_dearestRequest, _, _, _, rfl, rfl, rfl, ?_⟩
  exact fun equal => absurd (congrArg List.length equal) (by decide)

end Listing.Engine
