import Listing.Sql.Query

/-!
# The meaning of conditions

A condition of a selection holds for a row of a table, or it does not.  Rows are told apart by the
tables that they come from: a selection opens a frame for its row, and a selection inside of it
opens another frame in front.  A column that names its table is looked up in the innermost frame of
that table.

Only values that are present can be compared: a comparison with an absent cell does not hold,
whatever the comparison is.
-/

namespace Listing.Sql

/-- The cells of a row by the names of its columns.  A cell without a value is null. -/
abbrev TableRow (V : Type) : Type :=
  String → Option V

/-- The contents of a database whose cells have values of type `V`, with its comparisons. -/
structure Store (V : Type) where
  /-- The rows of a table. -/
  rows : String → List (TableRow V)
  /-- The value that a bound value stands for. -/
  value : Datum → V
  atMost : V → V → Prop
  like : V → String → Prop
  ilike : V → String → Prop
  /-- Different numbers are different values. -/
  value_int_injective : ∀ {m n : Int}, value (.int m) = value (.int n) → m = n

/-- A row in view, under the name of its table. -/
structure Frame (V : Type) where
  table : String
  row : TableRow V

namespace ColumnRef

variable {V : Type}

/-- The cell that a column refers to, among the frames in view, innermost first.  A column without a
table is one of the innermost row. -/
def cell? (frames : List (Frame V)) (column : ColumnRef) : Option V :=
  match column.table with
  | some table => (frames.find? (·.table == table)).bind (·.row column.name)
  | none => frames.head?.bind (·.row column.name)

@[simp]
theorem cell?_innermost (table name : String) (row : TableRow V) (frames : List (Frame V)) :
    cell? (⟨table, row⟩ :: frames) ⟨some table, name⟩ = row name := by
  simp [cell?]

theorem cell?_of_ne {table other : String} (ne : table ≠ other) (name : String)
    (row : TableRow V) (frames : List (Frame V)) :
    cell? (⟨table, row⟩ :: frames) ⟨some other, name⟩ = cell? frames ⟨some other, name⟩ := by
  simp [cell?, ne]

end ColumnRef

namespace Condition

variable {V : Type} (store : Store V)

/-- Whether a condition holds for the rows in view.  No value is in the empty list, and none is
needed to be outside of it. -/
def Holds (frames : List (Frame V)) : Condition → Prop
  | atLeast column value => ∃ v, column.cell? frames = some v ∧ store.atMost (store.value value) v
  | atMost column value => ∃ v, column.cell? frames = some v ∧ store.atMost v (store.value value)
  | equal column value => column.cell? frames = some (store.value value)
  | like column pattern => ∃ v, column.cell? frames = some v ∧ store.like v pattern
  | ilike column pattern => ∃ v, column.cell? frames = some v ∧ store.ilike v pattern
  | isIn column values => ∃ value ∈ values, column.cell? frames = some (store.value value)
  | notIn column values =>
      values = [] ∨ ∃ v, column.cell? frames = some v ∧ ∀ value ∈ values, v ≠ store.value value
  | constants left right => store.value left = store.value right
  | .exists table foreign outer condition =>
      ∃ row ∈ store.rows table,
        (∃ v, foreign.cell? (⟨table, row⟩ :: frames) = some v ∧
          outer.cell? (⟨table, row⟩ :: frames) = some v) ∧
        condition.Holds (⟨table, row⟩ :: frames)

theorem not_holds_constants {m n : Int} (ne : m ≠ n) (frames : List (Frame V)) :
    ¬(constants (.int m) (.int n)).Holds store frames :=
  fun holds => ne (store.value_int_injective holds)

end Condition

end Listing.Sql
