import Listing.Proofs.Sql.Execution

/-!
# Listings that cannot be expressed

Only one database family knows patterns without regard to letter case.  For the others a listing
with such a pattern has no statement at all, and it ends before anything is executed.  The condition
is made when the parameters are applied and is noticed only when the rows are counted; what brings
it in is nevertheless seen from the request, the settings and the kind of database
(`Engine.response_inexpressible_iff`).
-/

namespace Listing

open Bindings (IsLast)

/-- Whether a call asks for a pattern without regard to letter case. -/
def Call.ignoresCase : Call → Bool
  | like _ _ .ilike => true
  | _ => false

namespace Param

/-- Parameters that compare their field with a pattern. -/
def isPattern (param : Param) : Bool :=
  match param.target, param.operator with
  | .field _, .search | .field _, .startsWith => true
  | _, _ => false

variable {operator : Operator} {matching : LikeOperator} {field : String}
  {secondary : Option String} {value : Value}

/-- The calls of an operator on a field leave letter case aside exactly if it is one on patterns and
the settings say so. -/
theorem any_ignoresCase_of_fieldCalls? {calls : List Call}
    (calls_eq : fieldCalls? operator matching field secondary value = some calls) :
    calls.any Call.ignoresCase ↔
      (operator = .search ∨ operator = .startsWith) ∧ matching = .ilike := by
  cases fieldCalls?_eq_some_iff.mp calls_eq with
  | search | startsWith => cases matching <;> simp [Call.ignoresCase]
  | _ => simp [Call.ignoresCase]

end Param

/-- If no callback leaves letter case aside, then the calls of an admitted parameter do exactly if
it is one on patterns and the settings say so. -/
theorem Policy.Admits.any_ignoresCase {policy : Policy} {pair : String × String} {param : Param}
    (admits : policy.Admits pair param)
    (callsOnly : policy.CallsOnly fun call => call.ignoresCase = false) {matching : LikeOperator}
    {calls : List Call} (calls_eq : param.calls? matching = some calls) :
    calls.any Call.ignoresCase ↔ param.isPattern ∧ matching = .ilike := by
  cases target_eq : param.target with
  | callback run =>
      have keeps : calls.any Call.ignoresCase = false :=
        List.any_eq_false.mpr fun call call_mem =>
          Bool.eq_false_iff.mp (admits.allowed_of_callback callsOnly target_eq calls_eq call_mem)
      simp [keeps, Param.isPattern, target_eq]
  | field name =>
      obtain ⟨value, _, field_eq⟩ := Option.bind_eq_some_iff.mp calls_eq
      rw [target_eq] at field_eq
      rw [Param.any_ignoresCase_of_fieldCalls? field_eq, Param.isPattern, target_eq]
      cases param.operator <;> simp

namespace Engine

variable {policy : Policy} {request : Request} {engine : Engine}

/-- If no callback leaves letter case aside, then the parameters of an engine do exactly if the
settings say so and one of them is on a pattern. -/
theorem any_ignoresCase_paramCalls (made : ofRequest? policy request = .ok engine)
    (callsOnly : policy.CallsOnly fun call => call.ignoresCase = false) (config : Config) :
    (engine.paramCalls config).any Call.ignoresCase ↔
      config.likeOperator = .ilike ∧ ∃ param ∈ engine.params, param.isPattern := by
  rw [paramCalls, List.any_flatMap, List.any_eq_true]
  constructor
  · rintro ⟨param, param_mem, ignores⟩
    obtain ⟨pair, calls, admits, calls_eq⟩ :=
      exists_calls?_of_mem_params made config.likeOperator param_mem
    rw [calls_eq, Option.getD_some, admits.any_ignoresCase callsOnly calls_eq] at ignores
    exact ⟨ignores.2, param, param_mem, ignores.1⟩
  · rintro ⟨ilike_eq, param, param_mem, pattern⟩
    obtain ⟨pair, calls, admits, calls_eq⟩ :=
      exists_calls?_of_mem_params made config.likeOperator param_mem
    refine ⟨param, param_mem, ?_⟩
    rw [calls_eq, Option.getD_some, admits.any_ignoresCase callsOnly calls_eq]
    exact ⟨pattern, ilike_eq⟩

/-- If no hook or callback leaves letter case aside, then an engine does exactly if its parameters
do. -/
theorem any_ignoresCase_calls (made : ofRequest? policy request = .ok engine)
    (callsOnly : policy.CallsOnly fun call => call.ignoresCase = false) {additions : List Addition}
    (callbacksOnly : ∀ calls ∈ Addition.callbacks additions,
      ∀ call ∈ calls, call.ignoresCase = false)
    (config : Config) :
    ((engine.addAll additions).calls config).any Call.ignoresCase =
      (engine.paramCalls config).any Call.ignoresCase := by
  have never : ∀ {calls : List Call}, (∀ call ∈ calls, call.ignoresCase = false) →
      calls.any Call.ignoresCase = false :=
    fun allCalls => List.any_eq_false.mpr fun call call_mem =>
      Bool.eq_false_iff.mp (allCalls call call_mem)
  have prepare_false := never callsOnly.prepare
  have sorting_false : (if ∃ param ∈ engine.params, param.operator = .sort then []
      else policy.defaultSorting).any Call.ignoresCase = false := by
    split
    · rfl
    · exact never callsOnly.defaultSorting
  have callback_false : (Addition.callbacks additions).flatten.any Call.ignoresCase = false := by
    apply never
    intro call call_mem
    obtain ⟨calls, calls_mem, call_mem⟩ := List.mem_flatten.mp call_mem
    exact callbacksOnly calls calls_mem call call_mem
  have mark_false : (if request.pairs.has Paging.pureName then [Call.withoutEagerLoading]
      else []).any Call.ignoresCase = false := by
    split <;> rfl
  have scopes_false : ((engine.addAll additions).activeScopes.map scopeCall).any Call.ignoresCase =
      false := by
    apply never
    intro call call_mem
    obtain ⟨scope, _, rfl⟩ := List.mem_map.mp call_mem
    rfl
  have closing_false : ((engine.addAll additions).closingCalls config).any Call.ignoresCase =
      false := by
    rw [closingCalls_eq, List.any_append, List.any_map]
    cases (engine.addAll additions).limit config <;> rfl
  rw [calls, hostCalls, openingCalls_addAll made]
  simp only [List.any_append, prepare_false, sorting_false, callback_false, mark_false,
    scopes_false, closing_false, Bool.false_or, Bool.or_false]

end Engine

namespace Sql.Query

/-- Neither the selection that a query starts from nor any scope of it leaves letter case aside.  Of
several scopes of a name only the last one counts. -/
structure RegardsCase (query : Query) : Prop where
  select : query.select.ignoresCase = false
  scope : ∀ {name : String} {scope : Scope}, IsLast name scope query.scopes →
    ∀ arguments, (Select.kept (scope arguments)).any Condition.ignoresCase = false

/-- A call adds a condition without regard to letter case exactly if it asks for it. -/
theorem RegardsCase.any_ignoresCase_added {query : Query} (regardsCase : query.RegardsCase)
    (call : Call) : (query.added call).any Condition.ignoresCase = call.ignoresCase := by
  cases call with
  | like field pattern operator => cases operator <;> rfl
  | hasIn relation field items | hasEq relation field item =>
      simp only [added, Source.attempt, Source.perform, perform, keepRelated]
      split <;> rfl
  | applyScope name arguments =>
      simp only [added, Source.attempt, Source.perform, perform]
      cases last_eq : Bindings.last? name query.scopes with
      | none => rfl
      | some scope =>
          have scope_false := regardsCase.scope (Bindings.last?_eq_some_iff.mp last_eq) arguments
          rwa [(Select.editAll_conditions _ _).2.2, List.nil_append]
  | orderBy | withoutEagerLoading | limit | offset | stripPagination =>
      rw [added_of_idle rfl]
      rfl
  | _ => rfl

/-- Nothing but the calls decides whether a selection leaves letter case aside. -/
theorem RegardsCase.ignoresCase_attemptAll {query : Query} (regardsCase : query.RegardsCase)
    (calls : List Call) :
    (Source.attemptAll query calls).select.ignoresCase = calls.any Call.ignoresCase := by
  have base_false : query.select.conditions.any Condition.ignoresCase = false := regardsCase.select
  rw [Select.ignoresCase, attemptAll_conditions, List.any_append, base_false, Bool.false_or,
    List.any_flatMap]
  simp only [regardsCase.any_ignoresCase_added]

/-- A query has no statements exactly if it leaves letter case aside in a dialect that cannot, and
then nothing is executed for its page. -/
theorem compile_inexpressible (query : Query) :
    ((Page.compile query).outcome = .error .inexpressible ↔
      query.select.ignoresCase ∧ query.connection.dialect ≠ .postgres) ∧
    ((Page.compile query).outcome = .error .inexpressible →
      (Page.compile query).statements = []) := by
  by_cases expressible : query.select.ignoresCase → query.connection.dialect = .postgres
  · obtain ⟨inner, fetch, inner_eq, fetch_eq, _⟩ := Select.exists_statements expressible
    have count_eq := Select.countStatement?_of_unpaged inner_eq
    have answered : (Page.compile query).outcome ≠ .error .inexpressible := by
      rw [compile_eq count_eq fetch_eq]
      split
      · simp
      · split <;> simp
    have notBoth : ¬(query.select.ignoresCase ∧ query.connection.dialect ≠ .postgres) :=
      fun ⟨ignores, other_ne⟩ => other_ne (expressible ignores)
    exact ⟨iff_of_false answered notBoth, fun stopped => absurd stopped answered⟩
  · have eq_none : query.select.countStatement? query.connection.dialect = none := by
      have notExpressible : ¬query.select.isExpressible query.connection.dialect :=
        mt Select.isExpressible_iff.mp expressible
      rw [Select.countStatement?, if_neg notExpressible]
    have stopped_eq : Page.compile query = .stopped .inexpressible := by
      rw [Page.compile, Page.compileWith, count_strip_eq, eq_none]
      rfl
    rw [stopped_eq]
    exact ⟨iff_of_true rfl (Classical.not_imp.mp expressible), fun _ => rfl⟩

theorem regardsCase_books (connection : Connection) :
    (Catalogue.Books.query connection).RegardsCase where
  select := rfl
  scope := by
    intro name scope isLast arguments
    obtain ⟨_, rfl⟩ := Prod.mk.inj (List.mem_singleton.mp isLast.mem)
    rfl

end Sql.Query

namespace Engine

variable {policy : Policy} {request : Request} {engine : Engine}

/-- A listing of a table has no statements exactly if its query is built and leaves letter case
aside in a dialect that cannot, and then nothing is executed. -/
theorem response_inexpressible (engine : Engine) (config : Config) (query : Sql.Query) :
    ((engine.response config query).outcome = .error .inexpressible ↔
      ∃ built, engine.builder config query = .ok built ∧ built.select.ignoresCase ∧
        query.connection.dialect ≠ .postgres) ∧
    ((engine.response config query).outcome = .error .inexpressible →
      (engine.response config query).statements = []) := by
  cases builder_eq : engine.builder config query with
  | error reason =>
      rw [response_of_builder_error builder_eq]
      simp [Run.stopped]
  | ok built =>
      have connection_eq : built.connection = query.connection := by
        obtain ⟨_, rfl⟩ := builder_eq_ok_iff.mp builder_eq
        exact (Sql.Query.attemptAll_sameBase query _).connection
      obtain ⟨iff, nothing⟩ := Sql.Query.compile_inexpressible built
      rw [response_of_builder builder_eq, iff, connection_eq]
      refine ⟨?_, fun inexpressible => nothing (iff.mpr (by rwa [connection_eq]))⟩
      simp only [Except.ok.injEq, exists_eq_left']

/-- A listing of a table, of which neither the host nor the table itself leaves letter case aside,
has no statements exactly if its query is built, the settings leave letter case aside, the database
does not know how to, and a parameter on a pattern is kept.  Then nothing is executed.  Under the
other setting, and on the database that knows how to, every listing has its statements. -/
theorem response_inexpressible_iff (made : ofRequest? policy request = .ok engine)
    (callsOnly : policy.CallsOnly fun call => call.ignoresCase = false) {additions : List Addition}
    (callbacksOnly : ∀ calls ∈ Addition.callbacks additions,
      ∀ call ∈ calls, call.ignoresCase = false)
    {query : Sql.Query} (regardsCase : query.RegardsCase) (config : Config) :
    (((engine.addAll additions).response config query).outcome = .error .inexpressible ↔
      (∃ built, (engine.addAll additions).builder config query = .ok built) ∧
        config.likeOperator = .ilike ∧ query.connection.dialect ≠ .postgres ∧
        ∃ param ∈ engine.params, param.isPattern) ∧
    (((engine.addAll additions).response config query).outcome = .error .inexpressible →
      ((engine.addAll additions).response config query).statements = []) ∧
    (config.likeOperator = .like ∨ query.connection.dialect = .postgres →
      ((engine.addAll additions).response config query).outcome ≠ .error .inexpressible) := by
  obtain ⟨iff, nothing⟩ := response_inexpressible (engine.addAll additions) config query
  have ignores : ∀ built, (engine.addAll additions).builder config query = .ok built →
      (built.select.ignoresCase ↔
        config.likeOperator = .ilike ∧ ∃ param ∈ engine.params, param.isPattern) := by
    intro built built_eq
    obtain ⟨_, rfl⟩ := builder_eq_ok_iff.mp built_eq
    rw [regardsCase.ignoresCase_attemptAll, any_ignoresCase_calls made callsOnly callbacksOnly,
      any_ignoresCase_paramCalls made callsOnly]
  refine ⟨iff.trans ⟨?_, ?_⟩, nothing, ?_⟩
  · rintro ⟨built, built_eq, case, dialect_ne⟩
    obtain ⟨ilike_eq, pattern_exists⟩ := (ignores built built_eq).mp case
    exact ⟨⟨built, built_eq⟩, ilike_eq, dialect_ne, pattern_exists⟩
  · rintro ⟨⟨built, built_eq⟩, ilike_eq, dialect_ne, pattern_exists⟩
    exact ⟨built, built_eq, (ignores built built_eq).mpr ⟨ilike_eq, pattern_exists⟩, dialect_ne⟩
  · intro expressible inexpressible
    obtain ⟨built, built_eq, case, dialect_ne⟩ := iff.mp inexpressible
    rcases expressible with like_eq | postgres
    · have ilike_eq := ((ignores built built_eq).mp case).1
      rw [like_eq] at ilike_eq
      cases ilike_eq
    · exact dialect_ne postgres

theorem callsOnly_booksTable :
    Catalogue.Books.tablePolicy.CallsOnly fun call => call.ignoresCase = false where
  prepare := by simp [Catalogue.Books.tablePolicy]
  defaultSorting := by
    intro call call_mem
    obtain rfl := List.mem_singleton.mp call_mem
    rfl
  custom := fun isLast => absurd isLast.mem List.not_mem_nil
  override := fun isLast => absurd isLast.mem List.not_mem_nil

/-- A request for books with a word in their title. -/
def wordRequest : Request :=
  ⟨some "where_status=published&search_title=rust"⟩

/-- With letter case left aside, a word in the title has a listing in one database and none in the
other; the conditions of the scope and of the host, which regard it, make no difference. -/
theorem response_inexpressible_books :
    let query := fun dialect => Catalogue.Books.query ⟨dialect, .ok none, .ok []⟩
    let additions : List Addition := [.scope "published" [], .callback [.like "title" "R%" .like]]
    ∃ engine, ofRequest? Catalogue.Books.tablePolicy wordRequest = .ok engine ∧
      ((engine.addAll additions).response { likeOperator := .ilike } (query .sqlite)).outcome =
        .error .inexpressible ∧
      ((engine.addAll additions).response { likeOperator := .ilike } (query .sqlite)).statements =
        [] ∧
      ((engine.addAll additions).response { likeOperator := .ilike } (query .postgres)).outcome ≠
        .error .inexpressible ∧
      ((engine.addAll additions).response {} (query .sqlite)).outcome ≠ .error .inexpressible := by
  intro query additions
  have made := ofRequest?_of_check Catalogue.Books.tablePolicy wordRequest rfl
  have pairs_eq : wordRequest.pairs =
      [("where_status", "published"), ("search_title", "rust")] := by
    decide +kernel
  rw [pairs_eq] at made
  have callbacksOnly : ∀ calls ∈ Addition.callbacks additions, ∀ call ∈ calls,
      call.ignoresCase = false := by
    intro calls calls_mem call call_mem
    obtain rfl := List.mem_singleton.mp calls_mem
    obtain rfl := List.mem_singleton.mp call_mem
    rfl
  have allListing :=
    fun dialect => response_inexpressible_iff made callsOnly_booksTable callbacksOnly
    (Sql.Query.regardsCase_books ⟨dialect, .ok none, .ok []⟩)
  refine ⟨_, made, ?_⟩
  have inexpressible := (allListing .sqlite { likeOperator := .ilike }).1.mpr
    ⟨⟨_, rfl⟩, rfl, by decide, by decide +kernel⟩
  exact ⟨inexpressible, (allListing .sqlite _).2.1 inexpressible,
    (allListing .postgres _).2.2 (.inr rfl), (allListing .sqlite {}).2.2 (.inl rfl)⟩

end Engine

end Listing
