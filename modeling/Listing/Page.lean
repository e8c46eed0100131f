import Listing.Json.Basic
import Listing.Source

/-!
# Pages

A listing answers with a page: the rows together with the limit and offset they were chosen by and
the number of rows there are in all.
-/

namespace Listing

/-- How a page was chosen. -/
structure Extent where
  /-- The largest number of rows; absent if there is none. -/
  limit : Option Nat
  offset : Nat
  /-- The number of matching rows, whatever page they are on. -/
  total : Nat
deriving DecidableEq

/-- Some data with the extent of its page. -/
structure Page (α : Type) where
  extent : Extent
  data : α

namespace Extent

/-- The extent as JSON. -/
def toJson (extent : Extent) : Json :=
  .object [("limit", Json.ofOption .ofNat extent.limit), ("offset", .ofNat extent.offset),
    ("total", .ofNat extent.total)]

end Extent

namespace Page

/-- The page as JSON. -/
def toJson {α : Type} (encode : α → Json) (page : Page α) : Json :=
  .object [("meta", page.extent.toJson), ("data", encode page.data)]

variable {Q Row : Type} [Source Q Row]

/-- Counts and fetches the rows of a query and passes the rows through a function.  The count comes
first; without it nothing is fetched. -/
def compileWith {α : Type} (query : Q) (transform : List Row → α) : Run (Page α) := do
  let total ← Source.count (Source.attempt query .stripPagination)
  let rows ← Source.fetch query
  let (limit, offset) := Source.pagination query
  return ⟨⟨limit, offset.getD 0, total⟩, transform rows⟩

/-- The page that comes out names the limit and the offset that were last set, and holds the rows
that were fetched and their number without them. -/
theorem compileWith_outcome_eq_ok_iff {α : Type} {query : Q} {transform : List Row → α}
    {page : Page α} :
    (compileWith query transform).outcome = .ok page ↔
      ∃ total rows,
        (Source.count (Source.attempt query .stripPagination)).outcome = .ok total ∧
          (Source.fetch query).outcome = .ok rows ∧
          page = ⟨⟨(Source.pagination query).1, (Source.pagination query).2.getD 0, total⟩,
            transform rows⟩ := by
  simp only [compileWith, Run.bind_outcome_eq_ok_iff, Run.pure_outcome, Except.ok.injEq]
  constructor
  · rintro ⟨total, total_eq, rows, rows_eq, rfl⟩
    exact ⟨total, rows, total_eq, rows_eq, rfl⟩
  · rintro ⟨total, rows, total_eq, rows_eq, rfl⟩
    exact ⟨total, total_eq, rows, rows_eq, rfl⟩

/-- Counts and fetches the rows of a query. -/
def compile (query : Q) : Run (Page (List Row)) :=
  compileWith query id

/-- Counts and fetches the rows of a query and converts each row. -/
def compileAs {α : Type} (query : Q) (convert : Row → α) : Run (Page (List α)) :=
  compileWith query (List.map convert)

end Page

end Listing
