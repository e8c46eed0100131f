import Listing.Bindings
import Listing.Operator

/-!
# Whitelists

A policy names, for every operator, the fields it may be used on.  Operators on related rows need a
whitelist of relations, each with the fields of its rows; all others need a whitelist of fields.
-/

namespace Listing

/-- The fields that an operator may be used on. -/
inductive Whitelist where
  | fields (names : List String)
  /-- Relations with the fields of their rows; the last entry of a relation counts. -/
  | relations (entries : List (String × List String))
deriving DecidableEq, Inhabited

namespace Whitelist

/-- The whitelist that allows nothing. -/
def empty : Whitelist :=
  fields []

/-- Whether the whitelist has no entry at all. -/
def isEmpty : Whitelist → Bool
  | fields names => names.isEmpty
  | relations entries => entries.isEmpty

/-- Whether the whitelist is one of relations. -/
def isRelation : Whitelist → Bool
  | fields _ => false
  | relations _ => true

/-- Whether a field of the listed rows is allowed. -/
def allowsField (whitelist : Whitelist) (field : String) : Bool :=
  match whitelist with
  | fields names => names.contains field
  | relations _ => false

/-- Whether a field of the rows of a relation is allowed. -/
def allowsRelation (whitelist : Whitelist) (relation field : String) : Bool :=
  match whitelist with
  | fields _ => false
  | relations entries =>
      match Bindings.last? relation entries with
      | some names => names.contains field
      | none => false

/-- A whitelist fits an operator if it is empty or has the shape that the operator needs. -/
def fits (whitelist : Whitelist) (operator : Operator) : Bool :=
  whitelist.isEmpty || whitelist.isRelation == operator.isRelational

/-- The name of the shape that an operator needs. -/
def expectedShape (operator : Operator) : String :=
  if operator.isRelational then "relation" else "field list"

end Whitelist

end Listing
