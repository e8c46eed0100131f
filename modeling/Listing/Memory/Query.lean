import Listing.Memory.Row
import Listing.Memory.Sorting
import Listing.Source

/-!
# Queries on rows held in memory

A query records the calls made on it and applies them to its rows when it is run.  A scope looks at
one column and keeps the rows whose value there is its first argument, or true without arguments.
-/

namespace Listing.Memory

/-- A query on stored rows. -/
structure Query where
  rows : List Row
  /-- The columns of the scopes; the first entry for a name counts. -/
  scopes : List (String × String)
  /-- The recorded calls, in order. -/
  log : List Call
  eagerLoading : Bool
  limit : Option Nat
  offset : Option Nat

namespace Query

/-- The query for all rows. -/
def ofRows (rows : List Row) : Query where
  rows := rows
  scopes := []
  log := []
  eagerLoading := true
  limit := none
  offset := none

/-- Makes a scope known. -/
def withScope (query : Query) (name column : String) : Query :=
  { query with scopes := query.scopes ++ [(name, column)] }

/-- Records a call. -/
def record (query : Query) (call : Call) : Query :=
  { query with log := query.log ++ [call] }

/-- Does one call.  Removing limit, offset and orderings removes their calls from the record. -/
def perform (query : Query) : Call → Except Failure Query
  | .applyScope name arguments =>
      if (query.scopes.lookup name).isSome then .ok (query.record (.applyScope name arguments))
      else .error (.unknownScope name)
  | .withoutEagerLoading => .ok { query.record .withoutEagerLoading with eagerLoading := false }
  | .limit rows => .ok { query.record (.limit rows) with limit := some rows }
  | .offset rows => .ok { query.record (.offset rows) with offset := some rows }
  | .stripPagination =>
      .ok { query with log := query.log.filter (!·.isPagination), limit := none, offset := none }
  | call => .ok (query.record call)

/-- The rows that meet all recorded conditions, as stored. -/
def matching (query : Query) : List Row :=
  query.rows.filter fun row => query.log.all (row.meets query.scopes)

/-- The recorded orderings. -/
def orderings (query : Query) : List (String × Direction) :=
  query.log.filterMap fun
    | .orderBy field direction => some (field, direction)
    | _ => none

/-- The matching rows in the recorded order. -/
def ordered (query : Query) : List Row :=
  sortStable (fun row other => Row.compareByAll query.orderings row other == .lt) query.matching

/-- The rows of a page. -/
def paged (limit : Option Nat) (offset : Nat) (rows : List Row) : List Row :=
  match limit with
  | none => rows.drop offset
  | some limit => (rows.drop offset).take limit

/-- The rows that the query lists. -/
def evaluate (query : Query) : List Row :=
  paged query.limit (query.offset.getD 0) query.ordered

instance : Source Query Json where
  perform := perform
  pagination query := (query.limit, query.offset)
  count query := .done query.evaluate.length
  fetch query := .done (query.evaluate.map .object)

end Query

end Listing.Memory
