import Listing.Bindings
import Listing.Source
import Listing.Sql.Connection
import Listing.Sql.Select
import Listing.Text.Quoted

/-!
# Queries on a table

A query holds the selection that it builds, the relations and scopes that it knows, and the limit
and offset that were last set.  A field is taken as a column of the entity's table under the name
that was given.  Conditions on related rows ask for a row of the relation's table that refers to the
listed row.
-/

namespace Listing.Sql

/-- A relation from the rows of an entity to any number of rows of a table, whose foreign key equals
a key of the entity. -/
structure Relation where
  table : String
  foreignKey : String
  localKey : String
deriving DecidableEq, Inhabited

/-- A named fragment of a selection: from its arguments, the changes that it makes.  They are the
same for every selection, and only the changes of `Edit` are represented. -/
abbrev Scope : Type :=
  List Json → List Edit

/-- A query on the table of an entity. -/
structure Query where
  entity : Entity
  connection : Connection
  relations : List (String × Relation)
  scopes : List (String × Scope)
  select : Select
  eagerLoading : Bool
  limit : Option Nat
  offset : Option Nat

namespace Query

/-- The query for all rows of an entity. -/
def ofEntity (connection : Connection) (entity : Entity) : Query where
  entity := entity
  connection := connection
  relations := []
  scopes := []
  select := { table := entity.table, columns := entity.columns.map (·.name) }
  eagerLoading := true
  limit := none
  offset := none

/-- Makes a relation known; a later one of the same name replaces it. -/
def withRelation (query : Query) (name : String) (relation : Relation) : Query :=
  { query with relations := query.relations ++ [(name, relation)] }

/-- Makes a scope known; a later one of the same name replaces it. -/
def withScope (query : Query) (name : String) (scope : Scope) : Query :=
  { query with scopes := query.scopes ++ [(name, scope)] }

/-- Stands for the absent limit where an offset is set without one, since not every database takes
an offset alone. -/
def unboundedLimit : Nat :=
  Decimal.maxSigned.toNat

/-- The column of the entity's table for a field. -/
def column (query : Query) (field : String) : ColumnRef :=
  ⟨some query.entity.table, field⟩

/-- Adds a condition. -/
def keep (query : Query) (condition : Condition) : Query :=
  { query with select := query.select.edit (.keep condition) }

/-- The items of a list as they are bound for a field. -/
def bindAll (query : Query) (field : String) (items : List String) : List Datum :=
  items.filterMap (query.entity.bind? field)

/-- Adds the condition that a related row meets a condition on one of its fields.  A relation that
is not known relates no rows. -/
def keepRelated (query : Query) (name field : String) (condition : ColumnRef → Condition) :
    Query :=
  match Bindings.last? name query.relations with
  | none => query.keep (.constants (.int 1) (.int 0))
  | some relation =>
      query.keep (.exists relation.table ⟨some relation.table, relation.foreignKey⟩
        (query.column relation.localKey) (condition ⟨some relation.table, field⟩))

/-- Sets the limit. -/
def setLimit (query : Query) (rows : Nat) : Query :=
  { query with select := query.select.edit (.limit rows), limit := some rows }

/-- Sets the offset.  An offset of zero leaves the selection alone. -/
def setOffset (query : Query) (rows : Nat) : Query :=
  let edits : List Edit :=
    if rows = 0 then []
    else if query.limit.isNone then [.limit unboundedLimit, .offset rows]
    else [.offset rows]
  { query with select := query.select.editAll edits, offset := some rows }

/-- Removes limit, offset and orderings. -/
def strip (query : Query) : Query :=
  { query with
    select := query.select.editAll [.clearLimit, .clearOffset, .clearOrderings]
    limit := none
    offset := none }

/-- Does one call. -/
def perform (query : Query) : Call → Except Failure Query
  | .atLeast field value => .ok (query.keep (.atLeast (query.column field) (.ofValue value)))
  | .atMost field value => .ok (query.keep (.atMost (query.column field) (.ofValue value)))
  | .like field pattern .like => .ok (query.keep (.like (query.column field) pattern))
  | .like field pattern .ilike => .ok (query.keep (.ilike (query.column field) pattern))
  | .isIn field items =>
      .ok (query.keep (.isIn (query.column field) (query.bindAll field items)))
  | .notIn field items =>
      .ok (query.keep (.notIn (query.column field) (query.bindAll field items)))
  | .hasIn relation field items =>
      .ok (query.keepRelated relation field fun column => .isIn column (items.map Datum.loose))
  | .hasEq relation field item =>
      .ok (query.keepRelated relation field fun column => .equal column (Datum.loose item))
  | .orderBy field direction =>
      .ok { query with
        select := query.select.edit (.orderBy ⟨.ofColumn (query.column field), direction⟩) }
  | .applyScope name arguments =>
      match Bindings.last? name query.scopes with
      | none => .error (.unknownScope name)
      | some scope => .ok { query with select := query.select.editAll (scope arguments) }
  | .withoutEagerLoading => .ok { query with eagerLoading := false }
  | .limit rows => .ok (query.setLimit rows)
  | .offset rows => .ok (query.setOffset rows)
  | .stripPagination => .ok query.strip

/-- Executes a statement if it can be expressed. -/
def executed {α : Type} (statement : Option Statement) (answer : Except StoreError α) : Run α :=
  match statement with
  | none => .stopped .inexpressible
  | some statement => .execute statement answer

/-- Counts the rows of the selection, its order and page left aside. -/
def count (query : Query) : Run Nat :=
  executed (query.select.countStatement? query.connection.dialect) do
    match ← query.connection.countAnswer with
    | none => return 0
    | some row => readCount query.connection.dialect Select.countColumn row

/-- Fetches the rows of the selection. -/
def fetch (query : Query) : Run (List Json) :=
  executed (query.select.statement? query.connection.dialect) do
    let rows ← query.connection.fetchAnswer
    rows.mapM fun row => do
      return .object (← query.entity.read row)

instance : Source Query Json where
  perform := perform
  pagination query := (query.limit, query.offset)
  count := count
  fetch := fetch

/-! ## Description -/

/-- The description of an optional number of rows. -/
def describeRows : Option Nat → String
  | none => "None"
  | some rows => "Some(" ++ toString rows ++ ")"

/-- The description of a relation. -/
def describeRelation (entry : String × Relation) : String :=
  Text.quoted entry.1 ++ ": HasRelation \x7b table: " ++ Text.quoted entry.2.table ++
    ", foreign_key: " ++ Text.quoted entry.2.foreignKey ++ ", local_key: " ++
    Text.quoted entry.2.localKey ++ " \x7d"

/-- The entries that count, each name once. -/
def known {α : Type} (entries : List (String × α)) : List (String × α) :=
  (entries.map Prod.fst).eraseDups.filterMap fun name =>
    (Bindings.last? name entries).map (name, ·)

/-- The description of a query for diagnostics. -/
def describe (query : Query) : String :=
  "SeaQuery \x7b table: " ++ Text.quoted query.entity.table ++ ", relations: \x7b" ++
    String.intercalate ", " ((known query.relations).map describeRelation) ++ "\x7d, scopes: [" ++
    String.intercalate ", " ((known query.scopes).map fun entry => Text.quoted entry.1) ++
    "], eager_loading: " ++ Value.displayBool query.eagerLoading ++
    ", limit: " ++ describeRows query.limit ++ ", offset: " ++ describeRows query.offset ++
    ", .. \x7d"

end Query

end Listing.Sql
