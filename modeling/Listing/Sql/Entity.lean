import Listing.Decimal.Numeral
import Listing.Json.Basic
import Listing.Sql.Statement
import Listing.Text.Blank

/-!
# Entities

An entity is a table with its columns.  The kind of a column says how the items of a list are bound
when they are compared with it, and which values of a result row it accepts.
-/

namespace Listing.Sql

/-- The kind of a column. -/
inductive ColumnKind where
  | tinyInteger
  | smallInteger
  | integer
  | bigInteger
  | tinyUnsigned
  | smallUnsigned
  | unsigned
  | bigUnsigned
  | float
  | double
  | decimal
  | money
  | boolean
  | text
deriving DecidableEq, Inhabited

namespace ColumnKind

/-- Kinds whose values are whole numbers. -/
def isWhole : ColumnKind → Bool
  | tinyInteger | smallInteger | integer | bigInteger
  | tinyUnsigned | smallUnsigned | unsigned | bigUnsigned => true
  | _ => false

/-- Kinds whose values are numbers with a fraction. -/
def isFractional : ColumnKind → Bool
  | float | double | decimal | money => true
  | _ => false

/-- An item of a list as it is bound for a column.  An item that is no value of the kind is left
out, and so it matches nothing. -/
def bind? (kind : ColumnKind) (raw : String) : Option Datum :=
  if kind.isWhole then (Decimal.signed? (Text.trim raw.toList)).map .bigInt
  else if kind.isFractional then (Decimal.finite? (Text.trim raw.toList)).map .double
  else if kind = boolean then
    if raw = "true" ∨ raw = "1" then some (.bool true)
    else if raw = "false" ∨ raw = "0" then some (.bool false)
    else none
  else some (.text raw)

/-- The value of a result row as JSON, if it is of the kind.  The kinds of the smaller words have no
value among those a result row can hold. -/
def read? : ColumnKind → Datum → Option Json
  | integer, .int n => some (.ofInt n)
  | bigInteger, .bigInt n => some (.ofInt n)
  | bigUnsigned, .bigUnsigned n => some (.ofNat n)
  | double, .double x | decimal, .double x | money, .double x => some (.number (.float x))
  | boolean, .bool b => some (.bool b)
  | text, .text s => some (.string s)
  | _, _ => none

end ColumnKind

/-- A column of a table. -/
structure Column where
  /-- The name in the table. -/
  name : String
  /-- The name of the field in listed rows. -/
  field : String
  kind : ColumnKind
  /-- Other names under which requests may address the column. -/
  aliases : List String := []
  /-- Whether a row may have no value in the column. -/
  nullable : Bool := false
deriving Inhabited

/-- A table with its columns. -/
structure Entity where
  table : String
  columns : List Column
deriving Inhabited

namespace Entity

/-- The column that a request addresses by the given name. -/
def column? (entity : Entity) (name : String) : Option Column :=
  entity.columns.find? fun column => column.name == name || column.aliases.contains name

/-- An item of a list as it is bound when compared with a field.  Fields that are no column of the
entity have no kind, and their items are bound by their looks. -/
def bind? (entity : Entity) (field raw : String) : Option Datum :=
  match entity.column? field with
  | some column => column.kind.bind? raw
  | none => some (.loose raw)

end Entity

end Listing.Sql
