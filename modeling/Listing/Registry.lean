import Listing.Bindings
import Listing.Call
import Listing.Operator
import Listing.Text.CamelCase
import Listing.Text.Quoted

/-!
# Registered callbacks

A policy can answer `filter_<name>` parameters with callbacks of its own and replace what another
operator does with a field.  Names are compared by their camel case, so that different spellings of
a name reach the same callback.  The last registration for a name counts.
-/

namespace Listing

/-- The callbacks of a policy, keyed by the camel case of the name they were registered under. -/
structure Registry where
  customs : List (String × Callback) := []
  overrides : List ((Operator × String) × Callback) := []

namespace Registry

/-- The spelling under which names are compared. -/
def token (name : String) : String :=
  Text.camelCase name

/-- The registry without callbacks. -/
def empty : Registry :=
  {}

/-- Answers `filter_<name>` parameters. -/
def custom (registry : Registry) (name : String) (run : Callback) : Registry :=
  { registry with customs := registry.customs ++ [(token name, run)] }

/-- Replaces what an operator does with a field.  To replace the custom operator is to register a
custom callback. -/
def override (registry : Registry) (operator : Operator) (name : String) (run : Callback) :
    Registry :=
  if operator = .custom then registry.custom name run
  else { registry with overrides := registry.overrides ++ [((operator, token name), run)] }

/-- The callback for `filter_<name>` parameters. -/
def custom? (registry : Registry) (name : String) : Option Callback :=
  Bindings.last? (token name) registry.customs

/-- The callback that replaces an operator on a field. -/
def override? (registry : Registry) (operator : Operator) (name : String) : Option Callback :=
  Bindings.last? (operator, token name) registry.overrides

/-- Texts between brackets. -/
def bracketed (texts : List String) : String :=
  "[" ++ String.intercalate ", " texts ++ "]"

/-- The description of a registry for diagnostics; every name is shown once. -/
def describe (registry : Registry) : String :=
  let customs := (registry.customs.map Prod.fst).eraseDups
  let overrides := (registry.overrides.map Prod.fst).eraseDups
  "FilterRegistry \x7b custom: " ++ bracketed (customs.map Text.quoted) ++ ", overrides: " ++
    bracketed (overrides.map fun (operator, name) =>
      "(" ++ operator.label ++ ", " ++ Text.quoted name ++ ")") ++ " \x7d"

end Registry

end Listing
