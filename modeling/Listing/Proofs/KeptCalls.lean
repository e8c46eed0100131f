import Listing.Proofs.CallHistory
import Listing.Proofs.Selection

/-!
# What kept parameters do

A parameter that a policy admits always has an effect, and the calls of a parameter on a field name
only what the whitelist of its operator lists: the field itself, or the field as a relation together
with the secondary field.  Callbacks may make any calls; `Policy.NeverStrips` says of all hooks and
callbacks of a policy that they leave the page and the order of a query in place.
-/

namespace Listing

open Bindings (IsLast)

namespace Call

/-- What a condition or an ordering names: a field of the listed rows, or a relation and a field of
the related rows. -/
def named? : Call → Option (String × Option String)
  | atLeast field _ | atMost field _ | like field _ _ | isIn field _ | notIn field _
  | orderBy field _ => some (field, none)
  | hasIn relation field _ | hasEq relation field _ => some (relation, some field)
  | _ => none

/-- Whether a call names only a field that a whitelist lists for an operator. -/
def Within (policy : Policy) (operator : Operator) (field : String) (call : Call) : Prop :=
  ∃ secondary, call.named? = some (field, secondary) ∧ policy.Lists operator field secondary

theorem isStrip_of_named {call : Call} {named : String × Option String}
    (named_eq : call.named? = some named) : call.isStrip = false := by
  cases call with
  | stripPagination => simp [named?] at named_eq
  | _ => rfl

theorem limit?_of_named {call : Call} {named : String × Option String}
    (named_eq : call.named? = some named) : call.limit? = none := by
  cases call with
  | limit rows => simp [named?] at named_eq
  | _ => rfl

theorem exists_named_of_isPredicate {call : Call} (predicate : call.isPredicate) :
    ∃ named, call.named? = some named := by
  cases call with
  | orderBy | applyScope | withoutEagerLoading | limit | offset | stripPagination =>
      cases predicate
  | _ => exact ⟨_, rfl⟩

end Call

namespace Param

variable {operator : Operator} {matching : LikeOperator} {field : String}
  {secondary : Option String} {value : Value}

/-- The calls that an operator makes on a field with a value: one of its own kind, or, if all items
have to be found among related rows, one for each item.  Operators on related rows need a secondary
field; the custom operator makes no calls. -/
inductive Makes (matching : LikeOperator) (field : String) :
    Operator → Option String → Value → List Call → Prop
  | atLeast {secondary : Option String} (value : Value) :
      Makes matching field .atLeast secondary value [.atLeast field value]
  | atMost {secondary : Option String} (value : Value) :
      Makes matching field .atMost secondary value [.atMost field value]
  | sort {secondary : Option String} (direction : String) :
      Makes matching field .sort secondary (.text direction)
        [.orderBy field (directionOf direction)]
  | search {secondary : Option String} (pattern : String) :
      Makes matching field .search secondary (.text pattern) [.like field pattern matching]
  | startsWith {secondary : Option String} (pattern : String) :
      Makes matching field .startsWith secondary (.text pattern) [.like field pattern matching]
  | anyOf {secondary : Option String} (items : List String) :
      Makes matching field .anyOf secondary (.list items) [.isIn field items]
  | noneOf {secondary : Option String} (items : List String) :
      Makes matching field .noneOf secondary (.list items) [.notIn field items]
  | hasAny (related : String) (items : List String) :
      Makes matching field .hasAny (some related) (.list items) [.hasIn field related items]
  | hasAll (related : String) (items : List String) :
      Makes matching field .hasAll (some related) (.list items) (items.map (.hasEq field related))

theorem fieldCalls?_eq_some_iff {calls : List Call} :
    fieldCalls? operator matching field secondary value = some calls ↔
      Makes matching field operator secondary value calls := by
  constructor
  · intro calls_eq
    cases operator with
    | custom => cases calls_eq
    | atLeast | atMost =>
        cases calls_eq
        constructor
    | sort | search | startsWith | anyOf | noneOf =>
        cases value <;> cases calls_eq
        constructor
    | hasAny | hasAll =>
        cases value with
        | list items =>
            rcases Option.map_eq_some_iff.mp calls_eq with ⟨related, rfl, rfl⟩
            constructor
        | _ => cases calls_eq
  · intro makes
    cases makes <;> rfl

/-- Every operator but the custom one has a use for the values that it makes itself, if operators on
related rows are given a secondary field. -/
theorem fieldCalls?_isSome {raw : String} (operator_ne : operator ≠ .custom)
    (secondary_given : operator.isRelational = true → secondary.isSome)
    (value_eq : normalize operator raw = some value) :
    (fieldCalls? operator matching field secondary value).isSome := by
  cases operator with
  | custom => exact absurd rfl operator_ne
  | atLeast | atMost => rfl
  | hasAny | hasAll =>
      obtain ⟨related, rfl⟩ := Option.isSome_iff_exists.mp (secondary_given rfl)
      cases value_eq
      rfl
  | anyOf | noneOf | search =>
      cases value_eq
      rfl
  | startsWith | sort =>
      simp only [normalize, Option.ite_none_left_eq_some, Option.ite_none_right_eq_some,
        Option.some.injEq] at value_eq
      obtain ⟨_, rfl⟩ := value_eq
      rfl

/-- The calls of an operator on a field name that field, and the secondary field with it if the
operator is one on related rows. -/
theorem named?_of_fieldCalls? {calls : List Call}
    (calls_eq : fieldCalls? operator matching field secondary value = some calls) {call : Call}
    (call_mem : call ∈ calls) :
    call.named? = some (field, if operator.isRelational then secondary else none) := by
  cases fieldCalls?_eq_some_iff.mp calls_eq with
  | hasAll related items =>
      rcases List.mem_map.mp call_mem with ⟨item, _, rfl⟩
      rfl
  | _ =>
      rcases List.mem_singleton.mp call_mem with rfl
      rfl

end Param

/-- All calls of the registered callbacks are conditions, whatever value and secondary field they
are given.  Of several callbacks for a name only the last one counts. -/
structure Registry.AddsConditions (registry : Registry) : Prop where
  custom : ∀ {token : String} {run : Callback}, IsLast token run registry.customs →
    ∀ value secondary, ∀ call ∈ run value secondary, call.isPredicate
  override : ∀ {key : Operator × String} {run : Callback}, IsLast key run registry.overrides →
    ∀ value secondary, ∀ call ∈ run value secondary, call.isPredicate

namespace Policy

variable {policy : Policy} {pair : String × String} {param : Param}

/-- What is listed for an operator on related rows has a usable secondary field. -/
theorem Lists.usableSecondary?_isSome {operator : Operator} {field : String} {target : Target}
    {value secondary : Option String} (lists : policy.Lists operator field secondary)
    (relational : operator.isRelational = true) :
    (Param.usableSecondary? ⟨operator, target, value, secondary⟩).isSome := by
  cases lists with
  | field plain => simp [relational] at plain
  | relation _ _ _ _ nonempty => simp [Param.usableSecondary?, nonempty]

/-- What is listed stays listed if only the part of the secondary field that is used is looked
at. -/
theorem Lists.used {operator : Operator} {field : String} {target : Target}
    {value secondary : Option String} (lists : policy.Lists operator field secondary) :
    policy.Lists operator field
      (if operator.isRelational then Param.usableSecondary? ⟨operator, target, value, secondary⟩
        else none) := by
  cases lists with
  | field plain whitelist_eq listed => exact .field plain whitelist_eq listed
  | relation relational whitelist_eq isLast listed nonempty =>
      have usable := Option.filter_some_pos (p := (· ≠ "")) (by simpa using nonempty)
      rw [if_pos relational, Param.usableSecondary?, usable]
      exact .relation relational whitelist_eq isLast listed nonempty

/-- An admitted parameter always has an effect. -/
theorem Admits.calls?_isSome (admits : policy.Admits pair param) (matching : LikeOperator) :
    (param.calls? matching).isSome := by
  have normal : param.normalized?.isSome :=
    (keep?_eq_some_iff.mp ((keep?_eq_some_iff_admits ..).mpr admits)).choose_spec.2.2.2
  obtain ⟨value, value_eq⟩ := Option.isSome_iff_exists.mp normal
  rw [Param.calls?, value_eq, Option.bind_some]
  cases admits with
  | custom => rfl
  | override => rfl
  | listed _ _ operator_ne _ _ lists =>
      have raw := Option.ite_none_left_eq_some.mp value_eq
      exact Param.fieldCalls?_isSome operator_ne lists.usableSecondary?_isSome raw.2

/-- An admitted parameter on a field makes calls within the whitelist of its operator. -/
theorem Admits.within (admits : policy.Admits pair param) {matching : LikeOperator}
    {field : String} (target_eq : param.target = .field field) {calls : List Call}
    (calls_eq : param.calls? matching = some calls) {call : Call} (call_mem : call ∈ calls) :
    call.Within policy param.operator field := by
  cases admits with
  | custom => cases target_eq
  | override => cases target_eq
  | listed _ _ _ _ _ lists =>
      cases target_eq
      obtain ⟨value, _, field_eq⟩ := Option.bind_eq_some_iff.mp calls_eq
      exact ⟨_, Param.named?_of_fieldCalls? field_eq call_mem, lists.used⟩

/-! ## Hooks and callbacks -/

/-- No hook or callback of a policy removes limit, offset and orderings.  Of several callbacks for a
name only the last one counts. -/
structure NeverStrips (policy : Policy) : Prop where
  prepare : ∀ call ∈ policy.prepare, call.isStrip = false
  defaultSorting : ∀ call ∈ policy.defaultSorting, call.isStrip = false
  custom : ∀ {token : String} {run : Callback}, IsLast token run policy.registry.customs →
    ∀ value secondary, ∀ call ∈ run value secondary, call.isStrip = false
  override : ∀ {key : Operator × String} {run : Callback},
    IsLast key run policy.registry.overrides →
      ∀ value secondary, ∀ call ∈ run value secondary, call.isStrip = false

/-- All calls of the hooks and callbacks of a policy are of a kind.  Of several callbacks for a name
only the last one counts. -/
structure CallsOnly (policy : Policy) (allowed : Call → Prop) : Prop where
  prepare : ∀ call ∈ policy.prepare, allowed call
  defaultSorting : ∀ call ∈ policy.defaultSorting, allowed call
  custom : ∀ {token : String} {run : Callback}, IsLast token run policy.registry.customs →
    ∀ value secondary, ∀ call ∈ run value secondary, allowed call
  override : ∀ {key : Operator × String} {run : Callback},
    IsLast key run policy.registry.overrides →
      ∀ value secondary, ∀ call ∈ run value secondary, allowed call

theorem neverStrips_iff : policy.NeverStrips ↔ policy.CallsOnly fun call => call.isStrip = false :=
  ⟨fun ⟨prepare, sorting, custom, override⟩ => ⟨prepare, sorting, custom, override⟩,
    fun ⟨prepare, sorting, custom, override⟩ => ⟨prepare, sorting, custom, override⟩⟩

theorem Admits.allowed_of_callback (admits : policy.Admits pair param) {allowed : Call → Prop}
    (callsOnly : policy.CallsOnly allowed) {run : Callback}
    (target_eq : param.target = .callback run)
    {matching : LikeOperator} {calls : List Call} (calls_eq : param.calls? matching = some calls)
    {call : Call} (call_mem : call ∈ calls) : allowed call := by
  obtain ⟨value, _, run_eq⟩ := Option.bind_eq_some_iff.mp calls_eq
  rw [target_eq, Option.some.injEq] at run_eq
  subst run_eq
  cases admits with
  | custom _ _ _ registered =>
      cases target_eq
      exact callsOnly.custom registered _ _ call call_mem
  | override _ _ _ registered =>
      cases target_eq
      exact callsOnly.override registered _ _ call call_mem
  | listed => cases target_eq

/-- All calls of admitted parameters are of that kind if all conditions and orderings are. -/
theorem Admits.allowed (admits : policy.Admits pair param) {allowed : Call → Prop}
    (callsOnly : policy.CallsOnly allowed)
    (allNamed : ∀ {call named}, Call.named? call = some named → allowed call)
    {matching : LikeOperator} {calls : List Call} (calls_eq : param.calls? matching = some calls)
    {call : Call} (call_mem : call ∈ calls) : allowed call := by
  cases target_eq : param.target with
  | field name =>
      obtain ⟨secondary, name_eq, _⟩ := admits.within target_eq calls_eq call_mem
      exact allNamed name_eq
  | callback run => exact admits.allowed_of_callback callsOnly target_eq calls_eq call_mem

end Policy

namespace Engine

/-! ## Engines -/

variable {policy : Policy} {request : Request} {engine : Engine}

theorem admits_of_mem_params (made : ofRequest? policy request = .ok engine) {param : Param}
    (param_mem : param ∈ engine.params) : ∃ pair, policy.Admits pair param := by
  obtain ⟨_, rfl⟩ := ofRequest?_eq_ok_iff.mp made
  obtain ⟨pair, _, keep_eq⟩ := List.mem_filterMap.mp param_mem
  exact ⟨pair, (policy.keep?_eq_some_iff_admits pair param).mp keep_eq⟩

/-- A parameter of an engine is admitted by its policy and makes calls. -/
theorem exists_calls?_of_mem_params (made : ofRequest? policy request = .ok engine)
    (matching : LikeOperator) {param : Param} (param_mem : param ∈ engine.params) :
    ∃ pair calls, policy.Admits pair param ∧ param.calls? matching = some calls := by
  obtain ⟨pair, admits⟩ := admits_of_mem_params made param_mem
  obtain ⟨calls, calls_eq⟩ := Option.isSome_iff_exists.mp (admits.calls?_isSome matching)
  exact ⟨pair, calls, admits, calls_eq⟩

/-- The rows count as ordered exactly if a parameter of the sort operator is kept. -/
theorem isSorted_iff (made : ofRequest? policy request = .ok engine) (config : Config) :
    engine.isSorted config ↔ ∃ param ∈ engine.params, param.operator = .sort := by
  simp only [isSorted, List.any_eq_true, Bool.and_eq_true, beq_iff_eq]
  constructor
  · rintro ⟨param, param_mem, sort_eq, _⟩
    exact ⟨param, param_mem, sort_eq⟩
  · rintro ⟨param, param_mem, sort_eq⟩
    obtain ⟨pair, admits⟩ := admits_of_mem_params made param_mem
    exact ⟨param, param_mem, sort_eq, admits.calls?_isSome _⟩

/-- The parameters make calls of a kind only if the hooks and callbacks of the policy do. -/
theorem allowed_of_mem_paramCalls (made : ofRequest? policy request = .ok engine)
    {allowed : Call → Prop} (callsOnly : policy.CallsOnly allowed)
    (allNamed : ∀ {call named}, Call.named? call = some named → allowed call) {config : Config}
    {call : Call} (call_mem : call ∈ engine.paramCalls config) : allowed call := by
  obtain ⟨param, param_mem, call_mem⟩ := List.mem_flatMap.mp call_mem
  obtain ⟨pair, calls, admits, calls_eq⟩ :=
    exists_calls?_of_mem_params made config.likeOperator param_mem
  rw [calls_eq, Option.getD_some] at call_mem
  exact admits.allowed callsOnly allNamed calls_eq call_mem

end Engine

end Listing
