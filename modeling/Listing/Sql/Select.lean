import Listing.Call
import Listing.Sql.Reading

/-!
# Selections

A selection is what a query asks a table for: conditions that all have to hold, orderings, a limit
and an offset.  It is kept as data; its text is made from it for the dialect of a database.  Every
value in it, a constant too, is bound to a placeholder.

Rows are ordered by columns and by any expression that a host writes.  Other clauses that a host
could write are not represented: columns besides those of the table, joins, groups, unions, locks,
and conditions of other shapes than those of `Condition`.
-/

namespace Listing.Sql

/-- A column, with its table unless it stands alone. -/
structure ColumnRef where
  table : Option String
  name : String
deriving DecidableEq, Inhabited

namespace ColumnRef

/-- The text of a column. -/
def render (dialect : Dialect) (column : ColumnRef) : String :=
  match column.table with
  | none => dialect.quoteName column.name
  | some table => dialect.quoteName table ++ "." ++ dialect.quoteName column.name

theorem inert_render {dialect : Dialect} (column : ColumnRef) :
    dialect.Inert (column.render dialect) := by
  have point : dialect.Inert "." := Dialect.inert_of_isPlain (by decide)
  rw [render]
  split
  · exact Dialect.inert_quoteName _
  · exact ((Dialect.inert_quoteName _).append point).append (Dialect.inert_quoteName _)

end ColumnRef

/-- A condition on a row. -/
inductive Condition where
  | atLeast (column : ColumnRef) (value : Datum)
  | atMost (column : ColumnRef) (value : Datum)
  | equal (column : ColumnRef) (value : Datum)
  | like (column : ColumnRef) (pattern : String)
  /-- As `like`, letter case left aside. -/
  | ilike (column : ColumnRef) (pattern : String)
  | isIn (column : ColumnRef) (values : List Datum)
  | notIn (column : ColumnRef) (values : List Datum)
  /-- Compares two constants. -/
  | constants (left right : Datum)
  /-- Some row of a table has the given value in one column, equal to a column of the outer row, and
  meets a condition. -/
  | exists (table : String) (foreign outer : ColumnRef) (condition : Condition)
deriving Inhabited

/-- An expression to order rows by, as each dialect writes it: any texts, with values bound between
them.  The texts are inert, so that only bound values leave placeholders.  Expressions that stop a
dialect, as patterns without regard to letter case do, are not represented. -/
structure Expression where
  fragments : Dialect → List Fragment
  inert : ∀ dialect, Fragment.Inert dialect (fragments dialect)

/-- The expression whose value is that of a column. -/
def Expression.ofColumn (column : ColumnRef) : Expression where
  fragments dialect := [.text (column.render dialect)]
  inert _ := Fragment.inert_text_cons.mpr ⟨column.inert_render, Fragment.inert_nil⟩

/-- An ordering of rows by an expression.  Where the rows stand for which it has no value is left to
the database. -/
structure SortKey where
  expression : Expression
  direction : Direction

/-- A selection of rows of one table.  These are all clauses that there are. -/
structure Select where
  table : String
  columns : List String
  conditions : List Condition := []
  orderings : List SortKey := []
  limit : Option Nat := none
  offset : Option Nat := none
deriving Inhabited

/-! ## Construction -/

/-- One change of a selection.  Changes of clauses that a selection does not have are not
represented. -/
inductive Edit where
  | keep (condition : Condition)
  | orderBy (key : SortKey)
  | limit (rows : Nat)
  | offset (rows : Nat)
  | clearOrderings
  | clearLimit
  | clearOffset
deriving Inhabited

namespace Select

/-- Changes a selection.  Conditions and orderings are added after the present ones; limit and
offset are replaced. -/
def edit (select : Select) : Edit → Select
  | .keep condition => { select with conditions := select.conditions ++ [condition] }
  | .orderBy key => { select with orderings := select.orderings ++ [key] }
  | .limit rows => { select with limit := some rows }
  | .offset rows => { select with offset := some rows }
  | .clearOrderings => { select with orderings := [] }
  | .clearLimit => { select with limit := none }
  | .clearOffset => { select with offset := none }

/-- Changes a selection several times. -/
def editAll (select : Select) (edits : List Edit) : Select :=
  edits.foldl edit select

/-- The selection of all matching rows, in no order. -/
def unpaged (select : Select) : Select :=
  { select with orderings := [], limit := none, offset := none }

end Select

/-! ## Text -/

namespace Condition

/-- Whether a dialect can express the condition. -/
def isExpressible (dialect : Dialect) : Condition → Bool
  | ilike .. => dialect == .postgres
  | .exists _ _ _ condition => condition.isExpressible dialect
  | _ => true

/-- The fragments of `left = right` for two values. -/
def constantFragments (left right : Datum) : List Fragment :=
  [.bind left, .text " = ", .bind right]

/-- The fragments of a bracketed list of values. -/
def listFragments (values : List Datum) : List Fragment :=
  .text "(" :: Fragment.separated ", " (values.map fun value => [.bind value]) ++ [.text ")"]

/-- The fragments of a condition.  Among several conditions a pattern without regard to letter case
stands in brackets.  No value is in the empty list. -/
def fragments (dialect : Dialect) (alone : Bool) : Condition → List Fragment
  | atLeast column value => [.text (column.render dialect ++ " >= "), .bind value]
  | atMost column value => [.text (column.render dialect ++ " <= "), .bind value]
  | equal column value => [.text (column.render dialect ++ " = "), .bind value]
  | like column pattern => [.text (column.render dialect ++ " LIKE "), .bind (.text pattern)]
  | ilike column pattern =>
      let body := [.text (column.render dialect ++ " ILIKE "), .bind (.text pattern)]
      if alone then body else .text "(" :: body ++ [.text ")"]
  | isIn column values =>
      if values.isEmpty then constantFragments (.int 1) (.int 2)
      else .text (column.render dialect ++ " IN ") :: listFragments values
  | notIn column values =>
      if values.isEmpty then constantFragments (.int 1) (.int 1)
      else .text (column.render dialect ++ " NOT IN ") :: listFragments values
  | constants left right => constantFragments left right
  | .exists table foreign outer condition =>
      [.text "EXISTS(SELECT ", .bind (.int 1),
        .text (" FROM " ++ dialect.quoteName table ++ " WHERE " ++ foreign.render dialect ++
          " = " ++ outer.render dialect ++ " AND ")] ++
      condition.fragments dialect false ++ [.text ")"]

end Condition

namespace SortKey

/-- The word for the direction of an ordering, after a blank. -/
def directionText (key : SortKey) : String :=
  match key.direction with
  | .ascending => " ASC"
  | .descending => " DESC"

/-- The fragments of an ordering. -/
def fragments (dialect : Dialect) (key : SortKey) : List Fragment :=
  key.expression.fragments dialect ++ [.text key.directionText]

end SortKey

namespace Select

/-- Whether a dialect can express the selection. -/
def isExpressible (dialect : Dialect) (select : Select) : Bool :=
  select.conditions.all (·.isExpressible dialect)

/-- The fragments of the columns and the table. -/
def headFragments (dialect : Dialect) (select : Select) : List Fragment :=
  let column := fun name => ColumnRef.render dialect ⟨some select.table, name⟩
  [.text ("SELECT " ++ String.intercalate ", " (select.columns.map column) ++ " FROM " ++
    dialect.quoteName select.table)]

/-- The fragments of the conditions. -/
def conditionFragments (dialect : Dialect) (select : Select) : List Fragment :=
  match select.conditions with
  | [] => []
  | [condition] => .text " WHERE " :: condition.fragments dialect true
  | conditions =>
      .text " WHERE " ::
        Fragment.separated " AND " (conditions.map (·.fragments dialect false))

/-- The fragments of the orderings. -/
def orderingFragments (dialect : Dialect) (select : Select) : List Fragment :=
  match select.orderings with
  | [] => []
  | orderings =>
      .text " ORDER BY " :: Fragment.separated ", " (orderings.map (·.fragments dialect))

/-- The fragments of a limit or an offset. -/
def rowsFragments (word : String) : Option Nat → List Fragment
  | none => []
  | some rows => [.text (" " ++ word ++ " "), .bind (.bigUnsigned rows)]

/-- The fragments of a selection. -/
def fragments (dialect : Dialect) (select : Select) : List Fragment :=
  select.headFragments dialect ++ select.conditionFragments dialect ++
    select.orderingFragments dialect ++ rowsFragments "LIMIT" select.limit ++
    rowsFragments "OFFSET" select.offset

/-- The statement that fetches the rows of a selection, if the dialect can express it. -/
def statement? (dialect : Dialect) (select : Select) : Option Statement :=
  if select.isExpressible dialect then
    some (Statement.ofFragments dialect (select.fragments dialect))
  else none

/-- The column that holds the number of rows. -/
def countColumn : String :=
  "num_items"

/-- The statement that counts the rows of a selection, order and page left aside. -/
def countStatement? (dialect : Dialect) (select : Select) : Option Statement :=
  if select.isExpressible dialect then
    some (Statement.ofFragments dialect
      ([.text ("SELECT COUNT(*) AS " ++ countColumn ++ " FROM (")] ++
        select.unpaged.fragments dialect ++
        [.text (") AS " ++ dialect.quoteName "sub_query")]))
  else none

end Select

end Listing.Sql
