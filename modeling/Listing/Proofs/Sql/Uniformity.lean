import Listing.Proofs.Sql.Outline
import Listing.Proofs.Sql.Placeholders

/-!
# One text for all values

Whatever values a request brings, the text of its statement is the same.  Two requests get the same
text if their kept parameters have the same outlines (`Param.outline`) and if they agree on whether
there is a limit and on whether the offset is zero (`Engine.statement_text_congr`).  What else the
parameters say can only be among the bound values, and there is one placeholder for each of these.
-/

namespace Listing

open Sql (CallsAlike Entity)

namespace Param

/-! ## Outlines of parameters -/

/-- What a statement shows of a parameter. -/
structure Outline where
  operator : Operator
  field : Option String
  secondary : Option String
  /-- The direction of an ordering. -/
  direction : Option Direction
  /-- The number of items of a list that are bound. -/
  items : Nat
deriving DecidableEq

/-- The direction that a normalized value names for the sort operator. -/
def directionOf? : Operator → Value → Option Direction
  | .sort, .text raw => some (directionOf raw)
  | _, _ => none

/-- The number of items that are bound for a normalized value.  Of a list for a field of the entity
these are the items that fit the field. -/
def boundItems (entity : Entity) (field : Option String) : Operator → Value → Nat
  | .anyOf, .list items | .noneOf, .list items =>
      field.elim 0 fun name => (items.filterMap (entity.bind? name)).length
  | .hasAny, .list items | .hasAll, .list items => items.length
  | _, _ => 0

/-- The outline of a parameter on the rows of an entity. -/
def outline (entity : Entity) (param : Param) : Outline where
  operator := param.operator
  field := param.field?
  secondary := param.secondary
  direction := param.normalized?.bind (directionOf? param.operator)
  items := (param.normalized?.map (boundItems entity param.field? param.operator)).getD 0

variable {entity : Entity} {matching : LikeOperator} {operator : Operator} {field : String}
  {secondary : Option String}

/-- Values with the same outline make an operator call for the same, values aside. -/
theorem fieldCalls?_alike {value other : Value}
    (direction_eq : directionOf? operator value = directionOf? operator other)
    (items_eq : boundItems entity (some field) operator value =
      boundItems entity (some field) operator other)
    {calls otherCalls : List Call}
    (calls_eq : fieldCalls? operator matching field secondary value = some calls)
    (others_eq : fieldCalls? operator matching field secondary other = some otherCalls) :
    List.Forall₂ (CallsAlike entity) calls otherCalls := by
  cases fieldCalls?_eq_some_iff.mp calls_eq <;> cases fieldCalls?_eq_some_iff.mp others_eq
  case atLeast | atMost => exact .cons (by constructor) .nil
  case sort =>
    rw [Option.some.inj direction_eq]
    exact .cons (.orderBy ..) .nil
  case search | startsWith => exact .cons (.like ..) .nil
  case anyOf | noneOf => exact .cons (by constructor; exact items_eq) .nil
  case hasAny => exact .cons (.hasIn _ _ items_eq) .nil
  case hasAll =>
    rw [List.forall₂_map_left_iff, List.forall₂_map_right_iff]
    exact List.forall₂_iff_get.mpr ⟨items_eq, fun _ _ _ => .hasEq ..⟩

end Param

/-! ## Kept parameters -/

namespace Policy

variable {policy : Policy} {pair otherPair : String × String} {param other : Param}

theorem Admits.exists_field (admits : policy.Admits pair param)
    (registry_eq : policy.registry = .empty) : ∃ field, param.target = .field field := by
  cases admits with
  | custom _ _ _ registered =>
      rw [registry_eq] at registered
      cases registered.mem
  | override _ _ _ registered =>
      rw [registry_eq] at registered
      cases registered.mem
  | @listed _ _ key => exact ⟨key.field, rfl⟩

/-- Admitted parameters with the same outline make calls that differ in values at most. -/
theorem Admits.calls_alike (admits : policy.Admits pair param)
    (otherAdmits : policy.Admits otherPair other) (registry_eq : policy.registry = .empty)
    {entity : Entity} (outline_eq : param.outline entity = other.outline entity)
    (matching : LikeOperator) :
    List.Forall₂ (CallsAlike entity) ((param.calls? matching).getD [])
      ((other.calls? matching).getD []) := by
  obtain ⟨calls, calls_eq⟩ := Option.isSome_iff_exists.mp (admits.calls?_isSome matching)
  obtain ⟨otherCalls, others_eq⟩ := Option.isSome_iff_exists.mp (otherAdmits.calls?_isSome matching)
  rw [calls_eq, others_eq, Option.getD_some, Option.getD_some]
  obtain ⟨field, target_eq⟩ := admits.exists_field registry_eq
  obtain ⟨otherField, otherTarget_eq⟩ := otherAdmits.exists_field registry_eq
  obtain ⟨value, value_eq, field_eq⟩ := Option.bind_eq_some_iff.mp calls_eq
  obtain ⟨otherValue, otherValue_eq, otherCalls_eq⟩ := Option.bind_eq_some_iff.mp others_eq
  simp only [Param.outline, Param.field?, target_eq, otherTarget_eq, value_eq, otherValue_eq,
    Param.Outline.mk.injEq, Option.some.injEq, Option.bind_some, Option.map_some,
    Option.getD_some] at outline_eq
  obtain ⟨operator_eq, rfl, secondary_eq, direction_eq, items_eq⟩ := outline_eq
  rw [target_eq] at field_eq
  rw [otherTarget_eq] at otherCalls_eq
  simp only [Param.usableSecondary?, ← operator_eq, ← secondary_eq]
    at field_eq otherCalls_eq direction_eq items_eq
  exact Param.fieldCalls?_alike direction_eq items_eq field_eq otherCalls_eq

end Policy

namespace Engine

variable {policy : Policy} {request otherRequest : Request} {engine otherEngine : Engine}
  {entity : Entity}

/-- Requests with the same outlines make calls that differ in values at most. -/
theorem paramCalls_alike (made : ofRequest? policy request = .ok engine)
    (otherMade : ofRequest? policy otherRequest = .ok otherEngine)
    (registry_eq : policy.registry = .empty)
    (params_eq : engine.params.map (Param.outline entity) =
      otherEngine.params.map (Param.outline entity))
    (config : Config) :
    List.Forall₂ (CallsAlike entity) (engine.paramCalls config)
      (otherEngine.paramCalls config) := by
  have admitted : ∀ param ∈ engine.params, ∃ pair, policy.Admits pair param :=
    fun _ => admits_of_mem_params made
  have allOtherAdmitted : ∀ param ∈ otherEngine.params, ∃ pair, policy.Admits pair param :=
    fun _ => admits_of_mem_params otherMade
  rw [paramCalls, paramCalls]
  generalize engine.params = params at params_eq admitted
  generalize otherEngine.params = others at params_eq allOtherAdmitted
  induction params generalizing others with
  | nil =>
      obtain rfl := List.map_eq_nil_iff.mp params_eq.symm
      exact .nil
  | cons param params ih =>
      obtain ⟨other, rest, rfl, outline_eq, rest_eq⟩ := List.map_eq_cons_iff.mp params_eq.symm
      obtain ⟨pair, admits⟩ := admitted param List.mem_cons_self
      obtain ⟨otherPair, otherAdmits⟩ := allOtherAdmitted other List.mem_cons_self
      rw [List.flatMap_cons, List.flatMap_cons]
      refine List.rel_append ?_ ?_
      · exact admits.calls_alike otherAdmits registry_eq outline_eq.symm _
      · exact ih (fun param param_mem => admitted param (List.mem_cons_of_mem _ param_mem)) rest
          rest_eq.symm fun other other_mem =>
            allOtherAdmitted other (List.mem_cons_of_mem _ other_mem)

/-- Requests with the same outlines are ordered by their parameters or not together. -/
theorem sorts_congr
    (params_eq : engine.params.map (Param.outline entity) =
      otherEngine.params.map (Param.outline entity)) :
    (∃ param ∈ engine.params, param.operator = .sort) ↔
      ∃ param ∈ otherEngine.params, param.operator = .sort := by
  have operators_eq := congrArg (List.map Param.Outline.operator) params_eq
  simp only [List.map_map] at operators_eq
  have mem := congrArg (Operator.sort ∈ ·) operators_eq
  simpa [Param.outline] using mem

/-- Engines that agree on whether there is a limit and whether the offset is zero set pages by calls
that differ in values at most. -/
theorem closingCalls_alike {config : Config}
    (limit_eq : (engine.limit config).isSome = (otherEngine.limit config).isSome)
    (offset_iff : engine.offset = 0 ↔ otherEngine.offset = 0) :
    List.Forall₂ (CallsAlike entity) (engine.closingCalls config)
      (otherEngine.closingCalls config) := by
  rw [closingCalls_eq, closingCalls_eq]
  cases rows_eq : engine.limit config with
  | none =>
      have eq_none : otherEngine.limit config = none := by simpa [rows_eq] using limit_eq
      rw [eq_none]
      exact .cons (.offset offset_iff) .nil
  | some rows =>
      rw [rows_eq, Option.isSome_some] at limit_eq
      obtain ⟨otherRows, others_eq⟩ := Option.isSome_iff_exists.mp limit_eq.symm
      rw [others_eq]
      exact .cons (.limit ..) (.cons (.offset offset_iff) .nil)

/-- Two engines with the same additions that are made from requests with the same outlines build
queries that differ in values at most. -/
theorem attemptAll_calls_alike (made : ofRequest? policy request = .ok engine)
    (otherMade : ofRequest? policy otherRequest = .ok otherEngine)
    (registry_eq : policy.registry = .empty) {query : Sql.Query}
    (params_eq : engine.params.map (Param.outline query.entity) =
      otherEngine.params.map (Param.outline query.entity))
    {additions : List Addition} {config : Config}
    (limit_eq : ((engine.addAll additions).limit config).isSome =
      ((otherEngine.addAll additions).limit config).isSome)
    (offset_iff :
      (engine.addAll additions).offset = 0 ↔ (otherEngine.addAll additions).offset = 0) :
    Sql.Query.Alike query.entity
      (Source.attemptAll query ((engine.addAll additions).calls config))
      (Source.attemptAll query ((otherEngine.addAll additions).calls config)) := by
  have refl : ∀ calls, List.Forall₂ (CallsAlike query.entity) calls calls :=
    fun calls => List.forall₂_same.mpr fun call _ => .refl _ call
  have scopes_eq : (engine.addAll additions).activeScopes =
      (otherEngine.addAll additions).activeScopes :=
    activeScopes_addAll_congr made otherMade rfl
  simp only [calls, hostCalls, openingCalls_addAll made, openingCalls_addAll otherMade, scopes_eq,
    sorts_congr params_eq, Source.attemptAll_append]
  -- from the last calls of both engines back to the first
  refine Sql.Query.Alike.attemptAll ?_ (closingCalls_alike limit_eq offset_iff)
  refine Sql.Query.Alike.attemptAll ?_ (refl _)
  refine Sql.Query.Alike.mark ?_ _ _
  refine Sql.Query.Alike.attemptAll ?_ (refl _)
  refine Sql.Query.Alike.attemptAll ?_ (refl _)
  refine Sql.Query.Alike.attemptAll ?_
    (paramCalls_alike made otherMade registry_eq params_eq config)
  exact (Sql.Query.Alike.refl query).attemptAll (refl _)

/-- The text of a statement depends on the request only by the outlines of the kept parameters,
whether there is a limit, and whether the offset is zero.  Two requests that agree in these get
selections that differ in values at most, and the same text in every dialect, for the rows and for
their count.  Each text has as many placeholders as there are bound values. -/
theorem statement_text_congr (made : ofRequest? policy request = .ok engine)
    (otherMade : ofRequest? policy otherRequest = .ok otherEngine)
    (registry_eq : policy.registry = .empty) {query : Sql.Query}
    (params_eq : engine.params.map (Param.outline query.entity) =
      otherEngine.params.map (Param.outline query.entity))
    {additions : List Addition} {config : Config}
    (limit_eq : ((engine.addAll additions).limit config).isSome =
      ((otherEngine.addAll additions).limit config).isSome)
    (offset_iff :
      (engine.addAll additions).offset = 0 ↔ (otherEngine.addAll additions).offset = 0) :
    (∃ reason, (engine.addAll additions).builder config query = .error reason ∧
        (otherEngine.addAll additions).builder config query = .error reason) ∨
      ∃ built otherBuilt, (engine.addAll additions).builder config query = .ok built ∧
        (otherEngine.addAll additions).builder config query = .ok otherBuilt ∧
        built.select.outline = otherBuilt.select.outline ∧
        ∀ dialect,
          ((built.select.statement? dialect).map (·.text) =
              (otherBuilt.select.statement? dialect).map (·.text) ∧
            (built.select.countStatement? dialect).map (·.text) =
              (otherBuilt.select.countStatement? dialect).map (·.text)) ∧
          ∀ statement, built.select.statement? dialect = some statement ∨
              built.select.countStatement? dialect = some statement →
            dialect.placeholders statement.text = statement.values.length := by
  have scopes_eq := activeScopes_addAll_congr made otherMade (rfl : additions.filter _ = _)
  have missing_eq := missingScope?_congr scopes_eq query
  have alike := attemptAll_calls_alike made otherMade registry_eq params_eq limit_eq offset_iff
  rw [builder_eq, builder_eq, ← missing_eq]
  cases (engine.addAll additions).missingScope? query with
  | some name => exact .inl ⟨_, rfl, rfl⟩
  | none =>
      refine .inr ⟨_, _, rfl, rfl, alike.outline, fun dialect => ?_⟩
      refine ⟨Sql.Select.text_congr alike.outline dialect, ?_⟩
      rintro statement (statement_eq | statement_eq)
      · exact Sql.Select.placeholders_statement statement_eq
      · exact Sql.Select.placeholders_countStatement statement_eq

/-- A request for a page of books, by their identifiers, tags and titles. -/
def plainRequest : Request :=
  ⟨some "where_id=1,2,x&where_has_tags__name=rust,food&search_title=rust&sort_price=desc&offset=1"⟩

/-- A request of the same outline that brings signs, marks and words of statements as values. -/
def hostileRequest : Request :=
  ⟨some ("where_id=7,8&where_has_tags__name=%3F,%22&search_title=%22;DROP+TABLE+books--%241" ++
    "&sort_price=desc&offset=4&limit=2&pure")⟩

theorem statement_text_congr_books :
    let query := Catalogue.Books.query ⟨.postgres, .ok none, .ok []⟩
    let additions : List Addition := [.scope "published" [], .callback [.like "title" "?" .ilike]]
    ∃ engine otherEngine, ofRequest? Catalogue.Books.tablePolicy plainRequest = .ok engine ∧
      ofRequest? Catalogue.Books.tablePolicy hostileRequest = .ok otherEngine ∧
      engine.params.map (Param.outline query.entity) =
        otherEngine.params.map (Param.outline query.entity) ∧
      ∃ built otherBuilt, (engine.addAll additions).builder {} query = .ok built ∧
        (otherEngine.addAll additions).builder {} query = .ok otherBuilt ∧
        (built.select.statement? .postgres).map (·.text) =
          (otherBuilt.select.statement? .postgres).map (·.text) := by
  intro query additions
  have made := ofRequest?_of_check Catalogue.Books.tablePolicy plainRequest rfl
  have otherMade := ofRequest?_of_check Catalogue.Books.tablePolicy hostileRequest rfl
  have pairs_eq : plainRequest.pairs =
      [("where_id", "1,2,x"), ("where_has_tags__name", "rust,food"), ("search_title", "rust"),
        ("sort_price", "desc"), ("offset", "1")] := by
    decide +kernel
  have otherPairs_eq : hostileRequest.pairs =
      [("where_id", "7,8"), ("where_has_tags__name", "?,\""),
        ("search_title", "\";DROP TABLE books--$1"), ("sort_price", "desc"), ("offset", "4"),
        ("limit", "2"), ("pure", "")] := by
    decide +kernel
  rw [pairs_eq] at made
  rw [otherPairs_eq] at otherMade
  refine ⟨_, _, made, otherMade, by decide +kernel, ?_⟩
  have uniform :=
    @statement_text_congr _ _ _ _ _ made otherMade rfl query (by decide +kernel) additions {}
      (by decide +kernel) (by decide +kernel)
  rcases uniform with
    ⟨reason, failed, _⟩ | ⟨built, otherBuilt, built_eq, otherBuilt_eq, _, allTexts⟩
  · cases failed
  · exact ⟨built, otherBuilt, built_eq, otherBuilt_eq, (allTexts .postgres).1.1⟩

end Engine

end Listing
