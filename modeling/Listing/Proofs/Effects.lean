import Listing.Proofs.KeptCalls
import Listing.Proofs.Text.Pieces

/-!
# The effect of a parameter

A parameter either does nothing to a query, or it makes the calls of its operator on its own field,
or it runs its callback.  Which of these happens is told by its value, its target and its secondary
field alone and not by the query (`Param.apply_effect`), and the answer is what decides whether the
default order of a policy is needed (`Engine.isSorted_eq_any_apply`).
-/

namespace Listing

namespace Param

/-! ## Items -/

theorem items_ne_nil (raw : String) : items raw ≠ [] := by
  rw [items, ne_eq, List.map_eq_nil_iff]
  exact Text.splitOn_ne_nil listDelimiter raw.toList

theorem not_mem_of_mem_items {raw item : String} (item_mem : item ∈ items raw) :
    ',' ∉ item.toList := by
  rcases List.mem_map.mp item_mem with ⟨piece, piece_mem, rfl⟩
  rw [String.toList_ofList]
  exact Text.not_mem_of_mem_splitOn piece_mem

/-- The items with commas between them are the text that they come from. -/
theorem display_items (raw : String) : (Value.list (items raw)).display = raw := by
  apply String.toList_injective
  have pieces_eq : (items raw).map String.toList = raw.toList.splitOn ',' := by
    rw [items, List.map_map, Text.splitOn_eq]
    exact List.map_id'' (fun _ => String.toList_ofList) _
  rw [Value.display, String.toList_intercalate, pieces_eq]
  exact List.intercalate_splitOn ','

/-! ## Applying a parameter -/

/-- Applies a parameter to a query and tells whether it had an effect. -/
def apply {Q Row : Type} [Source Q Row] (param : Param) (matching : LikeOperator) (query : Q) :
    Q × Bool :=
  match param.calls? matching with
  | some calls => (Source.attemptAll query calls, true)
  | none => (query, false)

theorem usableSecondary?_eq_none_iff {param : Param} :
    param.usableSecondary? = none ↔ param.secondary = none ∨ param.secondary = some "" := by
  rw [usableSecondary?]
  cases param.secondary <;> simp

/-- What a parameter makes of its value, its operator makes of a text that counts as a value. -/
theorem normalized?_eq_some_iff {param : Param} {value : Value} :
    param.normalized? = some value ↔
      ∃ raw, param.value = some raw ∧ IsValue raw ∧ normalize param.operator raw = some value := by
  simp only [normalized?, Option.bind_eq_some_iff, Option.ite_none_left_eq_some, IsValue, not_or]

/-- The only operators without a use for their values are the custom one and, without a secondary
field, those on related rows. -/
theorem fieldCalls?_eq_none_iff {operator : Operator} {matching : LikeOperator} {field raw : String}
    {secondary : Option String} {value : Value} (value_eq : normalize operator raw = some value) :
    fieldCalls? operator matching field secondary value = none ↔
      operator = .custom ∨ operator.isRelational = true ∧ secondary = none := by
  constructor
  · intro eq_none
    by_cases operator_eq : operator = .custom
    · exact .inl operator_eq
    · right
      by_contra used
      have secondary_given : operator.isRelational = true → secondary.isSome := fun relational =>
        Option.isSome_iff_ne_none.mpr fun absent => used ⟨relational, absent⟩
      have is_some : (fieldCalls? operator matching field secondary value).isSome :=
        fieldCalls?_isSome operator_eq secondary_given value_eq
      simp [eq_none] at is_some
  · intro idle
    apply Option.eq_none_iff_forall_ne_some.mpr
    intro calls calls_eq
    cases fieldCalls?_eq_some_iff.mp calls_eq <;> simp [Operator.isRelational] at idle

/-- A parameter has no effect if its value has no normal form, and if it works on a field with the
custom operator, or with an operator on related rows and without a secondary field. -/
theorem calls?_eq_none_iff {param : Param} {matching : LikeOperator} :
    param.calls? matching = none ↔
      param.normalized? = none ∨ ∃ field, param.target = .field field ∧
        (param.operator = .custom ∨
          param.operator.isRelational = true ∧
            (param.secondary = none ∨ param.secondary = some "")) := by
  rw [← usableSecondary?_eq_none_iff, calls?]
  cases normal : param.normalized? with
  | none => simp
  | some value =>
      rcases normalized?_eq_some_iff.mp normal with ⟨raw, _, _, value_eq⟩
      rw [Option.bind_some]
      cases target_eq : param.target with
      | callback run => simp
      | field field => simp [fieldCalls?_eq_none_iff value_eq]

/-- What an operator does with the secondary field that it uses, it does with the given one. -/
theorem Makes.of_usableSecondary? {param : Param} {matching : LikeOperator} {field : String}
    {operator : Operator} {value : Value} {calls : List Call}
    (makes : Makes matching field operator param.usableSecondary? value calls) :
    Makes matching field operator param.secondary value calls := by
  generalize usable : param.usableSecondary? = secondary at makes
  cases makes with
  | hasAny related items | hasAll related items =>
      rw [(Option.filter_eq_some_iff.mp usable).1]
      constructor
  | _ => constructor

/-- Every operator but the one that wants all items makes a single call. -/
theorem Makes.exists_eq_singleton {operator : Operator} {matching : LikeOperator} {field : String}
    {secondary : Option String} {value : Value} {calls : List Call}
    (makes : Makes matching field operator secondary value calls)
    (operator_ne : operator ≠ .hasAll) :
    ∃ call, calls = [call] := by
  cases makes with
  | hasAll related items => exact absurd rfl operator_ne
  | _ => exact ⟨_, rfl⟩

theorem Makes.of_hasAll {matching : LikeOperator} {field : String} {secondary : Option String}
    {value : Value} {calls : List Call}
    (makes : Makes matching field .hasAll secondary value calls) :
    ∃ related items, secondary = some related ∧ value = .list items ∧
      calls = items.map (.hasEq field related) := by
  cases makes with
  | hasAll related items => exact ⟨related, items, rfl, rfl, rfl⟩

variable {Q Row : Type} [Source Q Row]

theorem apply_of_calls? {param : Param} {matching : LikeOperator} {calls : List Call}
    (calls_eq : param.calls? matching = some calls) (query : Q) :
    param.apply matching query = (Source.attemptAll query calls, true) := by
  rw [apply, calls_eq]

theorem apply_of_calls?_eq_none {param : Param} {matching : LikeOperator}
    (eq_none : param.calls? matching = none) (query : Q) :
    param.apply matching query = (query, false) := by
  rw [apply, eq_none]

/-- A parameter has an effect exactly if there are calls that it makes. -/
theorem apply_snd (param : Param) (matching : LikeOperator) (query : Q) :
    (param.apply matching query).2 = (param.calls? matching).isSome := by
  rw [apply]
  cases param.calls? matching <;> rfl

end Param

/-! ## Built-in operators -/

/-- The parameter that a key stands for with a value, if nothing replaces its operator. -/
def Param.ofKey (key : Key) (raw : String) : Param :=
  ⟨key.operator, .field key.field, some raw, key.secondary⟩

/-- A name is read as a key whose operator is not the custom one and is not replaced, and its
whitelist lists the field. -/
structure Policy.Offers (policy : Policy) (name : String) (key : Key) : Prop where
  reads : Key.parse? name = some key
  operator_ne : key.operator ≠ .custom
  builtIn : ∀ run, ((key.operator, Registry.token key.field), run) ∉ policy.registry.overrides
  lists : policy.Lists key.operator key.field key.secondary

section

variable {policy : Policy} {name raw : String} {key : Key} {value : Value}

/-- Pairs with such a name are kept if the operator has a use for their value. -/
theorem Policy.Offers.admits (offers : policy.Offers name key) (isValue : Param.IsValue raw)
    (normal : Param.normalize key.operator raw = some value) :
    policy.Admits (name, raw) (.ofKey key raw) := by
  have accepts : Param.Accepts key.operator raw :=
    Param.normalize_isSome_iff.mp (by rw [normal, Option.isSome_some])
  exact .listed isValue offers.reads offers.operator_ne offers.builtIn accepts offers.lists

theorem Param.calls?_ofKey (isValue : IsValue raw)
    (normal : normalize key.operator raw = some value) {matching : LikeOperator}
    {calls : List Call}
    (makes : Makes matching key.field key.operator (ofKey key raw).usableSecondary? value calls) :
    (ofKey key raw).calls? matching = some calls := by
  rw [calls?, normalized?_eq_some_iff.mpr ⟨raw, rfl, isValue, normal⟩]
  exact fieldCalls?_eq_some_iff.mpr makes

end

namespace Engine

variable {Q Row : Type} [Source Q Row]

/-! ## Engines -/

/-- The calls of the parameters are made by applying them one after the other. -/
theorem attemptAll_paramCalls (engine : Engine) (config : Config) (query : Q) :
    Source.attemptAll query (engine.paramCalls config) =
      engine.params.foldl (fun query param => (param.apply config.likeOperator query).1) query := by
  rw [paramCalls]
  induction engine.params generalizing query with
  | nil => rfl
  | cons param params ih =>
      rw [List.flatMap_cons, Source.attemptAll_append, ih, List.foldl_cons]
      cases calls_eq : param.calls? config.likeOperator with
      | none => rw [Param.apply_of_calls?_eq_none calls_eq]; rfl
      | some calls => rw [Param.apply_of_calls? calls_eq]; rfl

/-- The rows count as ordered if a parameter of the sort operator has an effect on them. -/
theorem isSorted_eq_any_apply (engine : Engine) (config : Config) (query : Q) :
    engine.isSorted config = engine.params.any fun param =>
      param.operator == .sort && (param.apply config.likeOperator query).2 := by
  simp only [isSorted, Param.apply_snd]

end Engine

namespace Param

/-- What a parameter does to a query and what it tells of it.  It tells that it had no effect
exactly if its value has no normal form, or it works on a field with the custom operator, or with an
operator on related rows and without a secondary field; then the query is as before.  Otherwise the
query has received, of a parameter on a field, the calls that its operator makes on this field and
the secondary field: a single one, or one for each item of the value, of which there is at least
one.  The parameters that an engine keeps have an effect on every query. -/
theorem apply_effect {Q Row : Type} [Source Q Row] (param : Param) (matching : LikeOperator)
    (query : Q) :
    ((param.apply matching query).2 = false ↔
        param.normalized? = none ∨ ∃ field, param.target = .field field ∧
          (param.operator = .custom ∨
            param.operator.isRelational = true ∧
              (param.secondary = none ∨ param.secondary = some ""))) ∧
      ((param.apply matching query).2 = false → (param.apply matching query).1 = query) ∧
      (∀ field, param.target = .field field → (param.apply matching query).2 = true →
        ∃ value calls, param.normalized? = some value ∧
          Makes matching field param.operator param.secondary value calls ∧
          (param.apply matching query).1 = Source.attemptAll query calls ∧
          (param.operator ≠ .hasAll → ∃ call, calls = [call]) ∧
          (param.operator = .hasAll → ∃ items related raw,
            param.value = some raw ∧ param.secondary = some related ∧
              items ≠ [] ∧ (∀ item ∈ items, ',' ∉ item.toList) ∧
              String.intercalate "," items = raw ∧ calls = items.map (.hasEq field related))) ∧
      ∀ policy request engine, Engine.ofRequest? policy request = .ok engine →
        param ∈ engine.params → (param.apply matching query).2 = true := by
  refine ⟨?_, ?_, ?_, ?_⟩
  · rw [apply_snd, Option.isSome_eq_false_iff, Option.isNone_iff_eq_none, calls?_eq_none_iff]
  · rw [apply_snd, Option.isSome_eq_false_iff, Option.isNone_iff_eq_none]
    intro eq_none
    rw [apply_of_calls?_eq_none eq_none]
  · intro field target_eq effect
    rw [apply_snd] at effect
    rcases Option.isSome_iff_exists.mp effect with ⟨calls, calls_eq⟩
    rcases Option.bind_eq_some_iff.mp calls_eq with ⟨value, value_eq, field_eq⟩
    rw [target_eq] at field_eq
    have makes := (fieldCalls?_eq_some_iff.mp field_eq).of_usableSecondary?
    refine ⟨value, calls, value_eq, makes, by rw [apply_of_calls? calls_eq],
      makes.exists_eq_singleton, ?_⟩
    intro operator_eq
    rcases normalized?_eq_some_iff.mp value_eq with ⟨raw, raw_eq, _, normal⟩
    rw [operator_eq] at makes normal
    rcases makes.of_hasAll with ⟨related, given, secondary_eq, rfl, all⟩
    rcases Value.list.inj (Option.some.inj normal) with rfl
    exact ⟨items raw, related, raw, raw_eq, secondary_eq, items_ne_nil raw,
      fun item => not_mem_of_mem_items, display_items raw, all⟩
  · intro policy request engine made param_mem
    rcases Engine.exists_calls?_of_mem_params made matching param_mem with ⟨_, calls, _, calls_eq⟩
    rw [apply_of_calls? calls_eq]

/-- Two tags are asked for, one of them twice. -/
def taggedRequest : Request :=
  ⟨some "where_has_all_tags__name=rust%2Csystems%2Crust"⟩

theorem apply_effect_books :
    ∃ engine param, Engine.ofRequest? Catalogue.Books.policy taggedRequest = .ok engine ∧
      engine.params = [param] ∧ param.target = .field "tags" ∧
      ∀ query : Sql.Query, (param.apply .like query).2 = true ∧
        (param.apply .like query).1 = Source.attemptAll query
          [.hasEq "tags" "name" "rust", .hasEq "tags" "name" "systems",
            .hasEq "tags" "name" "rust"] := by
  have pairs_eq : taggedRequest.pairs = [("where_has_all_tags__name", "rust,systems,rust")] := by
    decide +kernel
  have made := Engine.ofRequest?_of_check Catalogue.Books.policy taggedRequest rfl
  have params_eq : Catalogue.Books.policy.keepAll taggedRequest.pairs =
      [⟨.hasAll, .field "tags", some "rust,systems,rust", some "name"⟩] := by
    rw [pairs_eq]
    rfl
  rw [params_eq] at made
  refine ⟨_, _, made, rfl, rfl, fun query => ?_⟩
  obtain ⟨_, _, allField, kept⟩ := apply_effect
    ⟨.hasAll, .field "tags", some "rust,systems,rust", some "name"⟩ .like query
  have effect := kept _ _ _ made (List.mem_singleton_self _)
  obtain ⟨_, calls, value_eq, makes, applied, _, _⟩ := allField "tags" rfl effect
  have items_eq : items "rust,systems,rust" = ["rust", "systems", "rust"] := by decide +kernel
  rcases normalized?_eq_some_iff.mp value_eq with ⟨_, raw_eq, _, normal⟩
  rcases makes.of_hasAll with ⟨_, _, secondary_eq, rfl, rfl⟩
  cases raw_eq
  cases secondary_eq
  cases (Value.list.inj (Option.some.inj normal)).symm.trans items_eq
  exact ⟨effect, applied⟩

end Param

end Listing
