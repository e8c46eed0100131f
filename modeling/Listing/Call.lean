import Listing.Config
import Listing.Json.Basic
import Listing.Value

/-!
# Calls on a query

Everything that is done to a query is one of a few calls.  Parameters, hooks and callbacks stand for
lists of calls, and each data source says what a call does to its queries.
-/

namespace Listing

/-- The direction of an ordering. -/
inductive Direction where
  | ascending
  | descending
deriving DecidableEq, Inhabited

/-- One step in the construction of a query. -/
inductive Call where
  /-- Keeps rows whose field is at least the value. -/
  | atLeast (field : String) (value : Value)
  /-- Keeps rows whose field is at most the value. -/
  | atMost (field : String) (value : Value)
  /-- Keeps rows whose field matches the pattern. -/
  | like (field pattern : String) (operator : LikeOperator)
  /-- Keeps rows whose field is one of the items. -/
  | isIn (field : String) (items : List String)
  /-- Keeps rows whose field is none of the items. -/
  | notIn (field : String) (items : List String)
  /-- Keeps rows with a related row whose field is one of the items. -/
  | hasIn (relation field : String) (items : List String)
  /-- Keeps rows with a related row whose field is the item. -/
  | hasEq (relation field item : String)
  /-- Orders rows that agree on the earlier orderings. -/
  | orderBy (field : String) (direction : Direction)
  /-- Applies a fragment that the query knows by name. -/
  | applyScope (name : String) (arguments : List Json)
  /-- Leaves related rows unloaded. -/
  | withoutEagerLoading
  /-- Sets the largest number of rows. -/
  | limit (rows : Nat)
  /-- Sets the number of rows that are passed over. -/
  | offset (rows : Nat)
  /-- Removes limit, offset and orderings. -/
  | stripPagination
deriving Inhabited

namespace Call

/-- Calls that choose a page or an order and leave the set of matching rows alone. -/
def isPagination : Call → Bool
  | limit _ | offset _ | orderBy .. | stripPagination => true
  | _ => false

/-- Calls that only narrow the set of matching rows. -/
def isPredicate : Call → Bool
  | atLeast .. | atMost .. | like .. | isIn .. | notIn .. | hasIn .. | hasEq .. => true
  | _ => false

end Call

/-- What the host runs for a parameter: from the value and the secondary field of the key, the calls
that are made. -/
abbrev Callback : Type :=
  Value → Option String → List Call

end Listing
