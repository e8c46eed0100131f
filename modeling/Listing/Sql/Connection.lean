import Listing.Failure
import Listing.Sql.Entity

/-!
# Connections

A connection runs statements.  It knows its dialect, and for the two statements of a listing it has
an answer: the row of the count, if there is one, and the fetched rows, or a failure.  Rows are read
by the columns of an entity; the first column without a fitting value makes the row unreadable.
-/

namespace Listing.Sql

/-- The values of a result row by the names of its columns.  A column without a value is null. -/
abbrev ResultRow : Type :=
  List (String × Datum)

/-- A connection to a store. -/
structure Connection where
  dialect : Dialect
  countAnswer : Except StoreError (Option ResultRow)
  fetchAnswer : Except StoreError (List ResultRow)

namespace Column

/-- The field of a listed row that a column gives. -/
def read (column : Column) (row : ResultRow) : Except StoreError (String × Json) :=
  match row.lookup column.name with
  | none =>
      if column.nullable then .ok (column.field, .null) else .error (.undecodable column.name)
  | some datum =>
      match column.kind.read? datum with
      | some value => .ok (column.field, value)
      | none => .error (.undecodable column.name)

end Column

namespace Entity

/-- A result row as a listed row, its fields in the order of the columns. -/
def read (entity : Entity) (row : ResultRow) : Except StoreError (List (String × Json)) :=
  entity.columns.mapM (·.read row)

end Entity

/-- The unsigned word with the same bits as a signed one. -/
def unsignedWord (n : Int) : Nat :=
  (n % (Decimal.maxUnsigned + 1)).toNat

/-- The number of rows in the answer to a count.  The width of the counter is that of the dialect,
and a negative counter is taken as the unsigned word with the same bits. -/
def readCount (dialect : Dialect) (column : String) (row : ResultRow) : Except StoreError Nat :=
  match row.lookup column, dialect with
  | some (.bigInt n), .postgres => .ok (unsignedWord n)
  | some (.int n), .sqlite | some (.int n), .mysql => .ok (unsignedWord n)
  | _, _ => .error (.undecodable column)

end Listing.Sql
