import Listing.Failure
import Listing.Key
import Listing.Param
import Listing.Registry
import Listing.Request
import Listing.Whitelist

/-!
# Policies

A policy says what requests may do with a listing: the fields each operator may be used on, the
callbacks for parameters of its own, the calls made before all others, the order without a wish for
one, and the largest page.  Whatever a policy does not name is dropped silently.
-/

namespace Listing

/-- What requests may do with a listing. -/
structure Policy where
  whitelist : Operator → Whitelist
  registry : Registry := .empty
  /-- Calls made before anything else. -/
  prepare : List Call := []
  /-- Calls made if no parameter orders the rows. -/
  defaultSorting : List Call := []
  /-- The largest page size; below 1 there is none.  If it is absent the setting applies. -/
  maxLimit : Option Int := none

namespace Policy

/-- The policy without any field: only paging, scopes and calls of the host take effect. -/
def basic : Policy where
  whitelist := fun _ => .empty

/-- The first operator whose whitelist has the wrong shape.  The custom operator needs none. -/
def misfit? (policy : Policy) : Option Operator :=
  Operator.all.find? fun operator =>
    operator != .custom && !(policy.whitelist operator).fits operator

/-- Refuses a policy with a whitelist of the wrong shape. -/
def check (policy : Policy) : Except Failure Unit :=
  match policy.misfit? with
  | none => .ok ()
  | some operator => .error (.whitelistShape operator (Whitelist.expectedShape operator))

/-- The parameter that a key stands for, before it is checked.  A key of the custom operator stands
for nothing unless a callback is registered for it. -/
def resolve? (policy : Policy) (key : Key) (value : String) : Option Param :=
  let param? : Option Param :=
    if key.operator = .custom then
      (policy.registry.custom? key.field).map fun run => Param.onCallback run (some value)
    else
      match policy.registry.override? key.operator key.field with
      | some run => some (Param.onCallback run (some value))
      | none => some (Param.onField key.operator key.field (some value))
  param?.map (·.withSecondary key.secondary)

/-- Whether a parameter is allowed.  Callbacks always are. -/
def allows (policy : Policy) (param : Param) : Bool :=
  if param.operator = .custom then true
  else
    match param.field? with
    | none => false
    | some field =>
        if param.operator.isRelational then
          match param.usableSecondary? with
          | none => false
          | some secondary => (policy.whitelist param.operator).allowsRelation field secondary
        else (policy.whitelist param.operator).allowsField field

/-- The parameter that a pair of a request stands for, if it is kept. -/
def keep? (policy : Policy) (pair : String × String) : Option Param :=
  (Key.parse? pair.1).bind fun key =>
    (policy.resolve? key pair.2).filter fun param =>
      policy.allows param && param.normalized?.isSome

theorem keep?_of_parse?_eq_none (policy : Policy) {name : String}
    (unparsed : Key.parse? name = none)
    (value : String) : policy.keep? (name, value) = none := by
  rw [keep?, unparsed, Option.bind_none]

/-- The parameters that are kept of a request, in its order. -/
def keepAll (policy : Policy) (pairs : Pairs) : List Param :=
  pairs.filterMap policy.keep?

end Policy

end Listing
