import Listing.Catalogue.Books
import Listing.Engine

/-!
# Kept parameters

An engine keeps a part of the parameters of its request.  `Policy.Admits` says which parameter a
pair of the request is kept as, by the callbacks and whitelists of the policy and not by the
functions that select.  The main statement is `Engine.selection_iff_eq_params`: the parameters of an
engine are what the pairs of its request are admitted as, in the order of the request and with all
repetitions, and nothing else.
-/

namespace Listing

open Bindings (IsLast)

/-! ## Selections -/

/-- The second list holds what the elements of the first are admitted as, one after the other.
Elements that are admitted as nothing are passed over. -/
inductive Selection {α β : Type} (admits : α → β → Prop) : List α → List β → Prop
  | nil : Selection admits [] []
  | keep {a : α} {b : β} {source : List α} {chosen : List β}
      (admits_holds : admits a b) (rest : Selection admits source chosen) :
      Selection admits (a :: source) (b :: chosen)
  | drop {a : α} {source : List α} {chosen : List β}
      (never : ∀ b, ¬admits a b) (rest : Selection admits source chosen) :
      Selection admits (a :: source) chosen

/-- Where a function decides what is admitted, it makes the only selection. -/
theorem selection_iff_filterMap_eq {α β : Type} {admits : α → β → Prop} {decide? : α → Option β}
    (decides : ∀ a b, decide? a = some b ↔ admits a b) {source : List α} {chosen : List β} :
    Selection admits source chosen ↔ source.filterMap decide? = chosen := by
  constructor
  · intro selection
    induction selection with
    | nil => rfl
    | keep admits_holds _ ih =>
        rw [List.filterMap_cons_some ((decides _ _).mpr admits_holds), ih]
    | drop never _ ih =>
        rw [List.filterMap_cons_none, ih]
        exact Option.eq_none_iff_forall_ne_some.mpr fun b b_eq => never b ((decides _ b).mp b_eq)
  · rintro rfl
    induction source with
    | nil => exact .nil
    | cons a source ih =>
        cases a_eq : decide? a with
        | none =>
            rw [List.filterMap_cons_none a_eq]
            refine .drop (fun b admits_holds => ?_) ih
            simp [(decides a b).mpr admits_holds] at a_eq
        | some b =>
            rw [List.filterMap_cons_some a_eq]
            exact .keep ((decides a b).mp a_eq) ih

namespace Param

/-! ## Values -/

/-- A text that counts as a value for any operator. -/
def IsValue (raw : String) : Prop :=
  raw ≠ "" ∧ raw ≠ "null"

/-- The values that an operator has a use for. -/
def Accepts (operator : Operator) (raw : String) : Prop :=
  match operator with
  | .anyOf | .noneOf | .hasAny | .hasAll | .search | .custom => True
  | .startsWith => ' ' ∉ raw.toList
  | .sort => raw = "asc" ∨ raw = "desc"
  | .atLeast | .atMost =>
      (∃ n, Decimal.signed? (Text.trim raw.toList) = some n) ∨
        ∃ x, Decimal.finite? (Text.trim raw.toList) = some x

/-- A text is a number if it is a whole number that fits a signed word or a finite float. -/
theorem numeric?_isSome_iff {raw : String} :
    (Value.numeric? raw).isSome ↔
      (∃ n, Decimal.signed? (Text.trim raw.toList) = some n) ∨
        ∃ x, Decimal.finite? (Text.trim raw.toList) = some x := by
  simp only [Value.numeric?]
  cases whole : Decimal.signed? (Text.trim raw.toList) with
  | some n => simp
  | none => simp [Option.isSome_iff_exists]

/-- An operator makes something of the values that it accepts and of no others. -/
theorem normalize_isSome_iff {operator : Operator} {raw : String} :
    (normalize operator raw).isSome ↔ Accepts operator raw := by
  cases operator with
  | atLeast | atMost => exact numeric?_isSome_iff
  | startsWith => by_cases blank : ' ' ∈ raw.toList <;> simp [normalize, Accepts, blank]
  | sort => by_cases directed : raw = "asc" ∨ raw = "desc" <;> simp [normalize, Accepts, directed]
  | _ => simp [normalize, Accepts]

/-- A parameter has a normal form exactly if its text is a value that its operator accepts. -/
theorem normalized?_isSome_iff {operator : Operator} {target : Target} {raw : String}
    {secondary : Option String} :
    (normalized? ⟨operator, target, some raw, secondary⟩).isSome ↔
      IsValue raw ∧ Accepts operator raw := by
  by_cases blank : raw = "" ∨ raw = "null"
  · have fails : ¬IsValue raw := fun isValue => blank.elim isValue.1 isValue.2
    simp [normalized?, blank, fails]
  · have isValue : IsValue raw := not_or.mp blank
    simp [normalized?, blank, isValue, normalize_isSome_iff]

end Param

namespace Policy

/-! ## Admitted parameters -/

/-- The whitelist of an operator lists a field, for operators on related rows together with the
secondary field. -/
inductive Lists (policy : Policy) (operator : Operator) (field : String) : Option String → Prop
  | field {names : List String} {secondary : Option String}
      (plain : operator.isRelational = false)
      (whitelist_eq : policy.whitelist operator = .fields names)
      (listed : field ∈ names) :
      Lists policy operator field secondary
  | relation {entries : List (String × List String)} {names : List String} {related : String}
      (relational : operator.isRelational = true)
      (whitelist_eq : policy.whitelist operator = .relations entries)
      (isLast : IsLast field names entries)
      (listed : related ∈ names) (nonempty : related ≠ "") :
      Lists policy operator field (some related)

/-- A pair of a request is admitted as a parameter. -/
inductive Admits (policy : Policy) : String × String → Param → Prop
  /-- A callback answers keys of the custom operator, whatever the whitelists say. -/
  | custom {name raw : String} {key : Key} {run : Callback}
      (isValue : Param.IsValue raw) (parsed : Key.parse? name = some key)
      (operator_eq : key.operator = .custom)
      (registered : IsLast (Registry.token key.field) run policy.registry.customs) :
      Admits policy (name, raw) ⟨.custom, .callback run, some raw, key.secondary⟩
  /-- A callback that replaces an operator on a field is run for every value, whatever the
  whitelists say. -/
  | override {name raw : String} {key : Key} {run : Callback}
      (isValue : Param.IsValue raw) (parsed : Key.parse? name = some key)
      (operator_ne : key.operator ≠ .custom)
      (registered :
        IsLast (key.operator, Registry.token key.field) run policy.registry.overrides) :
      Admits policy (name, raw) ⟨.custom, .callback run, some raw, key.secondary⟩
  /-- Otherwise the operator has to accept the value and its whitelist to list the field. -/
  | listed {name raw : String} {key : Key}
      (isValue : Param.IsValue raw) (parsed : Key.parse? name = some key)
      (operator_ne : key.operator ≠ .custom)
      (builtIn : ∀ run,
        ((key.operator, Registry.token key.field), run) ∉ policy.registry.overrides)
      (accepts : Param.Accepts key.operator raw)
      (lists : policy.Lists key.operator key.field key.secondary) :
      Admits policy (name, raw) ⟨key.operator, .field key.field, some raw, key.secondary⟩

/-! ## The decision -/

variable {policy : Policy} {key : Key} {raw : String}

theorem allowsField_iff {whitelist : Whitelist} {field : String} :
    whitelist.allowsField field ↔ ∃ names, whitelist = .fields names ∧ field ∈ names := by
  cases whitelist <;> simp [Whitelist.allowsField]

/-- A whitelist of relations allows the fields that the last entry of a relation lists. -/
theorem allowsRelation_iff {whitelist : Whitelist} {relation field : String} :
    whitelist.allowsRelation relation field ↔
      ∃ entries names, whitelist = .relations entries ∧ IsLast relation names entries ∧
        field ∈ names := by
  cases whitelist with
  | fields names => simp [Whitelist.allowsRelation]
  | relations entries =>
      simp only [Whitelist.allowsRelation, ← Bindings.last?_eq_some_iff]
      cases entry_eq : Bindings.last? relation entries <;> simp [entry_eq]

theorem allows_custom (target : Target) (value secondary : Option String) :
    policy.allows ⟨.custom, target, value, secondary⟩ = true := by
  simp [allows]

/-- Parameters on a field are allowed if the whitelist of their operator lists the field. -/
theorem allows_field_iff {operator : Operator} (operator_ne : operator ≠ .custom) {field : String}
    {value secondary : Option String} :
    policy.allows ⟨operator, .field field, value, secondary⟩ ↔
      policy.Lists operator field secondary := by
  simp only [allows, operator_ne, if_false, Param.field?]
  cases relational : operator.isRelational with
  | false =>
      rw [if_neg Bool.false_ne_true, allowsField_iff]
      constructor
      · rintro ⟨names, whitelist_eq, listed⟩
        exact .field relational whitelist_eq listed
      · intro lists
        cases lists with
        | field _ whitelist_eq listed => exact ⟨_, whitelist_eq, listed⟩
        | relation isRelational => simp [relational] at isRelational
  | true =>
      rw [if_pos rfl]
      constructor
      · intro allows_true
        cases usable : Param.usableSecondary? ⟨operator, .field field, value, secondary⟩ with
        | none => simp [usable] at allows_true
        | some related =>
            rw [usable] at allows_true
            obtain ⟨secondary_eq, nonempty⟩ := Option.filter_eq_some_iff.mp usable
            obtain ⟨entries, names, whitelist_eq, isLast, listed⟩ :=
              allowsRelation_iff.mp allows_true
            obtain rfl : secondary = some related := secondary_eq
            exact .relation relational whitelist_eq isLast listed (by simpa using nonempty)
      · intro lists
        cases lists with
        | field notRelational => simp [relational] at notRelational
        | @relation entries names related _ whitelist_eq isLast listed nonempty =>
            have usable : Param.usableSecondary? ⟨operator, .field field, value, some related⟩ =
                some related := by
              simp [Param.usableSecondary?, nonempty]
            rw [usable]
            exact allowsRelation_iff.mpr ⟨entries, names, whitelist_eq, isLast, listed⟩

theorem resolve?_eq_some_iff_of_custom (operator_eq : key.operator = .custom) {param : Param} :
    policy.resolve? key raw = some param ↔
      ∃ run, IsLast (Registry.token key.field) run policy.registry.customs ∧
        param = ⟨.custom, .callback run, some raw, key.secondary⟩ := by
  simp only [resolve?, operator_eq, if_true, Option.map_map, Option.map_eq_some_iff,
    Registry.custom?, Bindings.last?_eq_some_iff]
  exact exists_congr fun run => and_congr_right fun _ => eq_comm

theorem resolve?_of_override (operator_ne : key.operator ≠ .custom) {run : Callback}
    (registered : IsLast (key.operator, Registry.token key.field) run policy.registry.overrides) :
    policy.resolve? key raw = some ⟨.custom, .callback run, some raw, key.secondary⟩ := by
  have run_eq : policy.registry.override? key.operator key.field = some run :=
    Bindings.last?_eq_some_iff.mpr registered
  simp [resolve?, operator_ne, run_eq, Param.onCallback, Param.withSecondary]

theorem resolve?_of_builtIn (operator_ne : key.operator ≠ .custom)
    (builtIn : ∀ run,
      ((key.operator, Registry.token key.field), run) ∉ policy.registry.overrides) :
    policy.resolve? key raw =
      some ⟨key.operator, .field key.field, some raw, key.secondary⟩ := by
  have eq_none : policy.registry.override? key.operator key.field = none :=
    Bindings.last?_eq_none_iff.mpr builtIn
  simp [resolve?, operator_ne, eq_none, Param.onField, Param.withSecondary]

/-- A pair is kept as the parameter that its key stands for, if that is allowed and has a normal
form. -/
theorem keep?_eq_some_iff {pair : String × String} {param : Param} :
    policy.keep? pair = some param ↔
      ∃ key, Key.parse? pair.1 = some key ∧ policy.resolve? key pair.2 = some param ∧
        policy.allows param ∧ param.normalized?.isSome := by
  simp [keep?, Option.bind_eq_some_iff, Option.filter_eq_some_iff]

/-- The selecting functions keep exactly what the policy admits. -/
theorem keep?_eq_some_iff_admits (policy : Policy) (pair : String × String) (param : Param) :
    policy.keep? pair = some param ↔ policy.Admits pair param := by
  rcases pair with ⟨name, raw⟩
  rw [keep?_eq_some_iff]
  constructor
  · rintro ⟨key, parsed, resolve_eq, allows, normal⟩
    by_cases operator_eq : key.operator = .custom
    · obtain ⟨run, registered, rfl⟩ := (resolve?_eq_some_iff_of_custom operator_eq).mp resolve_eq
      exact .custom (Param.normalized?_isSome_iff.mp normal).1 parsed operator_eq registered
    · cases last_eq :
          Bindings.last? (key.operator, Registry.token key.field) policy.registry.overrides with
      | some run =>
          have registered := Bindings.last?_eq_some_iff.mp last_eq
          rw [resolve?_of_override operator_eq registered, Option.some.injEq] at resolve_eq
          subst resolve_eq
          exact .override (Param.normalized?_isSome_iff.mp normal).1 parsed operator_eq registered
      | none =>
          have builtIn := Bindings.last?_eq_none_iff.mp last_eq
          rw [resolve?_of_builtIn operator_eq builtIn, Option.some.injEq] at resolve_eq
          subst resolve_eq
          obtain ⟨isValue, accepts⟩ := Param.normalized?_isSome_iff.mp normal
          exact .listed isValue parsed operator_eq builtIn accepts
            ((allows_field_iff operator_eq).mp allows)
  · intro admits
    cases admits with
    | @custom _ _ key run isValue parsed operator_eq registered =>
        refine ⟨key, parsed, ?_, allows_custom .., ?_⟩
        · exact (resolve?_eq_some_iff_of_custom operator_eq).mpr ⟨run, registered, rfl⟩
        · exact Param.normalized?_isSome_iff.mpr ⟨isValue, trivial⟩
    | @override _ _ key run isValue parsed operator_ne registered =>
        refine ⟨key, parsed, resolve?_of_override operator_ne registered, allows_custom .., ?_⟩
        exact Param.normalized?_isSome_iff.mpr ⟨isValue, trivial⟩
    | @listed _ _ key isValue parsed operator_ne builtIn accepts lists =>
        refine ⟨key, parsed, resolve?_of_builtIn operator_ne builtIn, ?_, ?_⟩
        · exact (allows_field_iff operator_ne).mpr lists
        · exact Param.normalized?_isSome_iff.mpr ⟨isValue, accepts⟩

end Policy

namespace Engine

/-! ## Engines -/

/-- The parameters of an engine are the one selection that its policy admits from the decoded pairs
of its request. -/
theorem selection_iff_eq_params {policy : Policy} {request : Request} {engine : Engine}
    (made : ofRequest? policy request = .ok engine) {params : List Param} :
    Selection policy.Admits request.pairs params ↔ params = engine.params := by
  obtain ⟨_, rfl⟩ := ofRequest?_eq_ok_iff.mp made
  rw [selection_iff_filterMap_eq policy.keep?_eq_some_iff_admits, eq_comm, Policy.keepAll]

/-- A request with a listed field, a callback under another spelling of its name, an order that is
no direction, a relation with a listed field, and a replaced operator on a field that no whitelist
lists. -/
def mixedRequest : Request :=
  ⟨some "where_id=1&filter_byAuthorRole=a&sort_title=up&where_has_tags__name=b%2Cc&where_genre=d"⟩

theorem selection_mixedRequest :
    ∃ engine, ofRequest? Catalogue.Books.policy mixedRequest = .ok engine ∧
      engine.params =
        [⟨.anyOf, .field "id", some "1", none⟩,
          ⟨.custom, .callback Catalogue.Books.byAuthorRole, some "a", none⟩,
          ⟨.hasAny, .field "tags", some "b,c", some "name"⟩,
          ⟨.custom, .callback Catalogue.Books.genre, some "d", none⟩] ∧
      Selection Catalogue.Books.policy.Admits
        [("where_id", "1"), ("filter_byAuthorRole", "a"), ("sort_title", "up"),
          ("where_has_tags__name", "b,c"), ("where_genre", "d")]
        engine.params := by
  have pairs_eq : mixedRequest.pairs =
      [("where_id", "1"), ("filter_byAuthorRole", "a"), ("sort_title", "up"),
        ("where_has_tags__name", "b,c"), ("where_genre", "d")] := by
    decide +kernel
  have made := ofRequest?_of_check Catalogue.Books.policy mixedRequest rfl
  refine ⟨_, made, ?_, ?_⟩
  · rw [pairs_eq]
    rfl
  · rw [← pairs_eq]
    exact (selection_iff_eq_params made).mpr rfl

/-- A policy that lists a field for the custom operator and has no callback. -/
def listedCustom : Policy where
  whitelist
    | .custom => .fields ["x"]
    | _ => .empty

/-- Without a callback a parameter of the custom operator is dropped, though the value is accepted
and the whitelist of the operator lists the field. -/
theorem listed_custom_dropped :
    (Request.pairs ⟨some "filter_x=1"⟩ = [("filter_x", "1")] ∧
        Key.parse? "filter_x" = some ⟨.custom, "x", none⟩ ∧
        Param.IsValue "1" ∧ Param.Accepts .custom "1" ∧
        (∀ run, (Registry.token "x", run) ∉ listedCustom.registry.customs) ∧
        listedCustom.Lists .custom "x" none) ∧
      ∃ engine, ofRequest? listedCustom ⟨some "filter_x=1"⟩ = .ok engine ∧ engine.params = [] := by
  have pairs_eq : Request.pairs ⟨some "filter_x=1"⟩ = [("filter_x", "1")] := by decide +kernel
  have parsed : Key.parse? "filter_x" = some ⟨.custom, "x", none⟩ := by decide +kernel
  refine ⟨⟨pairs_eq, parsed, ?_, trivial, ?_, ?_⟩, ?_⟩
  · exact ⟨by decide, by decide⟩
  · intro run
    exact List.not_mem_nil
  · exact .field rfl rfl (List.mem_singleton.mpr rfl)
  · refine ⟨_, ofRequest?_of_check _ _ rfl, ?_⟩
    rw [pairs_eq]
    rfl

end Engine

end Listing
