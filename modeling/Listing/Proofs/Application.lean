import Listing.Engine
import Mathlib.Data.List.TakeWhile

/-!
# Applications

Only the call of a scope that a query does not have can fail, and no call changes which scopes a
query has.  An engine therefore either makes all of its calls, one after the other, or it fails with
the first of its scopes that the query does not have: this is `Engine.builder_eq`, whatever the
kind of the query is.  The calls of the engine itself come last, so that the query reports the page
that they set.
-/

namespace Listing

/-- A kind of query whose calls do what they promise: scopes are applied exactly if the query has
them, and limit and offset are reported as they were last set. -/
class LawfulSource (Q : Type) (Row : outParam Type) [Source Q Row] where
  /-- Whether a query has a scope of the given name. -/
  hasScope : Q → String → Bool
  /-- No call changes which scopes a query has. -/
  hasScope_attempt : ∀ (query : Q) (call : Call),
    hasScope (Source.attempt query call) = hasScope query
  perform_applyScope : ∀ (query : Q) (name : String) (arguments : List Json),
    Source.perform query (.applyScope name arguments) =
      if hasScope query name then .ok (Source.attempt query (.applyScope name arguments))
      else .error (.unknownScope name)
  pagination_limit : ∀ (query : Q) (rows : Nat),
    Source.pagination (Source.attempt query (.limit rows)) =
      (some rows, (Source.pagination query).2)
  pagination_offset : ∀ (query : Q) (rows : Nat),
    Source.pagination (Source.attempt query (.offset rows)) =
      ((Source.pagination query).1, some rows)

namespace Engine

open LawfulSource (hasScope)

/-- The call of a scope. -/
def scopeCall (scope : String × List Json) : Call :=
  .applyScope scope.1 scope.2

/-- The calls of the host and of the request, before the page is set. -/
def hostCalls (engine : Engine) (config : Config) : List Call :=
  engine.openingCalls config ++ engine.activeScopes.map scopeCall

/-- All calls of an engine that is not stopped. -/
def calls (engine : Engine) (config : Config) : List Call :=
  engine.hostCalls config ++ engine.closingCalls config

variable {Q Row : Type} [Source Q Row]

/-- A query as the calls of the host and of the request leave it. -/
def hosted (engine : Engine) (config : Config) (query : Q) : Q :=
  Source.attemptAll query (engine.hostCalls config)

theorem attemptAll_calls (engine : Engine) (config : Config) (query : Q) :
    Source.attemptAll query (engine.calls config) =
      Source.attemptAll (engine.hosted config query) (engine.closingCalls config) :=
  Source.attemptAll_append ..

/-- Engines with the same calls and the same scopes make the same of a query. -/
theorem builder_congr {engine other : Engine} {config : Config}
    (opening_eq : engine.openingCalls config = other.openingCalls config)
    (scopes_eq : engine.activeScopes = other.activeScopes)
    (closing_eq : engine.closingCalls config = other.closingCalls config) (query : Q) :
    engine.builder config query = other.builder config query := by
  simp only [builder, apply, opening_eq, scopes_eq, closing_eq]

variable [LawfulSource Q Row]

@[simp]
theorem hasScope_attemptAll (query : Q) (calls : List Call) :
    hasScope (Source.attemptAll query calls) = hasScope query := by
  induction calls generalizing query with
  | nil => rfl
  | cons call calls ih => exact (ih _).trans (LawfulSource.hasScope_attempt query call)

/-- The first scope that is to be applied and that a query does not have. -/
def missingScope? (engine : Engine) (query : Q) : Option String :=
  (engine.activeScopes.map Prod.fst).find? fun name => !hasScope query name

/-- No scope is missing exactly if the query has all that are applied. -/
theorem missingScope?_eq_none_iff {engine : Engine} {query : Q} :
    engine.missingScope? query = none ↔ ∀ scope ∈ engine.activeScopes, hasScope query scope.1 := by
  rw [missingScope?, List.find?_eq_none]
  constructor
  · intro never scope scope_mem
    simpa using never scope.1 (List.mem_map_of_mem scope_mem)
  · intro all name name_mem
    obtain ⟨scope, scope_mem, rfl⟩ := List.mem_map.mp name_mem
    simp [all scope scope_mem]

theorem missingScope?_congr {engine other : Engine}
    (scopes_eq : engine.activeScopes = other.activeScopes) (query : Q) :
    engine.missingScope? query = other.missingScope? query := by
  rw [missingScope?, missingScope?, scopes_eq]

/-- Scopes are applied one after the other, up to the first that the query does not have. -/
theorem applyScopes_eq (query : Q) (scopes : List (String × List Json)) :
    applyScopes query scopes =
      ⟨Source.attemptAll query
        ((scopes.takeWhile fun scope => hasScope query scope.1).map scopeCall),
        ((scopes.map Prod.fst).find? fun name => !hasScope query name).map .unknownScope⟩ := by
  induction scopes generalizing query with
  | nil => rfl
  | cons scope rest ih =>
      rcases scope with ⟨name, arguments⟩
      rw [applyScopes, LawfulSource.perform_applyScope]
      cases known_eq : hasScope query name with
      | false => simp [known_eq]
      | true =>
          simp only [if_true, ih, LawfulSource.hasScope_attempt, List.map_cons, known_eq,
            List.takeWhile_cons_of_pos, Bool.not_true, Bool.false_eq_true, not_false_eq_true,
            List.find?_cons_of_neg]
          rfl

/-- An engine makes all of its calls, unless the query does not have one of the scopes: then it
makes those before the first such scope. -/
theorem apply_eq (engine : Engine) (config : Config) (query : Q) :
    engine.apply config query =
      match engine.missingScope? query with
      | some name =>
          ⟨Source.attemptAll query (engine.openingCalls config ++
            (engine.activeScopes.takeWhile fun scope => hasScope query scope.1).map scopeCall),
            some (.unknownScope name)⟩
      | none => ⟨Source.attemptAll query (engine.calls config), none⟩ := by
  simp only [apply, applyScopes_eq, hasScope_attemptAll]
  cases missing_eq : engine.missingScope? query with
  | some name =>
      rw [missingScope?] at missing_eq
      simp [missing_eq]
  | none =>
      have all := missingScope?_eq_none_iff.mp missing_eq
      rw [missingScope?] at missing_eq
      simp [missing_eq, List.takeWhile_eq_self_iff.mpr all, calls, hostCalls]

theorem apply_failure (engine : Engine) (config : Config) (query : Q) :
    (engine.apply config query).failure = (engine.missingScope? query).map .unknownScope := by
  rw [apply_eq]
  cases engine.missingScope? query <;> rfl

/-- So it builds the query after all calls, or fails with the first of its scopes that the query
does not have. -/
theorem builder_eq (engine : Engine) (config : Config) (query : Q) :
    engine.builder config query =
      match engine.missingScope? query with
      | some name => .error (.unknownScope name)
      | none => .ok (Source.attemptAll query (engine.calls config)) := by
  rw [builder, apply_eq]
  cases engine.missingScope? query <;> rfl

/-- After the calls of the engine itself a query reports their limit, or the one that it had before
if they set none, and their offset. -/
theorem pagination_closingCalls (engine : Engine) (config : Config) (query : Q) :
    Source.pagination (Source.attemptAll query (engine.closingCalls config)) =
      ((engine.limit config).or (Source.pagination query).1, some engine.offset) := by
  cases limit_eq : engine.limit config with
  | none =>
      rw [closingCalls, limit_eq]
      exact LawfulSource.pagination_offset query engine.offset
  | some rows =>
      rw [closingCalls, limit_eq]
      calc Source.pagination (Source.attempt (Source.attempt query (.limit rows))
            (.offset engine.offset))
        _ = ((Source.pagination (Source.attempt query (.limit rows))).1, some engine.offset) :=
            LawfulSource.pagination_offset ..
        _ = (some rows, some engine.offset) := by rw [LawfulSource.pagination_limit]

theorem builder_eq_ok_iff {engine : Engine} {config : Config} {query built : Q} :
    engine.builder config query = .ok built ↔
      engine.missingScope? query = none ∧
        built = Source.attemptAll query (engine.calls config) := by
  rw [builder_eq]
  cases engine.missingScope? query <;> simp [eq_comm]

/-- A query that is built reports the limit of the engine, or the one that the host left if the
engine sets none, and the offset of the engine. -/
theorem pagination_of_builder {engine : Engine} {config : Config} {query built : Q}
    (built_eq : engine.builder config query = .ok built) :
    Source.pagination built =
      ((engine.limit config).or (Source.pagination (engine.hosted config query)).1,
        some engine.offset) := by
  obtain ⟨_, rfl⟩ := builder_eq_ok_iff.mp built_eq
  rw [attemptAll_calls]
  exact pagination_closingCalls ..

omit [LawfulSource Q Row] in
/-- The response of an engine is the page of the query that it builds. -/
theorem response_of_builder {engine : Engine} {config : Config} {query built : Q}
    (built_eq : engine.builder config query = .ok built) :
    engine.response config query = Page.compile built := by
  simp [response, responseWith, built_eq, Page.compile, bind, Run.andThen, Run.ofExcept, Run.done]

omit [LawfulSource Q Row] in
/-- An engine that builds no query executes nothing, whatever would become of the rows. -/
theorem responseWith_of_builder_error {α : Type} {engine : Engine} {config : Config} {query : Q}
    {reason : Failure} (failed : engine.builder config query = .error reason)
    (transform : List Row → α) :
    engine.responseWith config query transform = .stopped (.failed reason) := by
  simp [responseWith, failed, bind, Run.andThen, Run.ofExcept, Run.stopped]

omit [LawfulSource Q Row] in
theorem response_of_builder_error {engine : Engine} {config : Config} {query : Q} {reason : Failure}
    (failed : engine.builder config query = .error reason) :
    engine.response config query = .stopped (.failed reason) :=
  responseWith_of_builder_error failed id

/-- The response of an engine is a failure if a scope is missing, and otherwise the page of the
query after all calls. -/
theorem response_eq (engine : Engine) (config : Config) (query : Q) :
    engine.response config query =
      match engine.missingScope? query with
      | some name => .stopped (.failed (.unknownScope name))
      | none => Page.compile (Source.attemptAll query (engine.calls config)) := by
  have builds_eq := builder_eq engine config query
  cases missing_eq : engine.missingScope? query with
  | some name =>
      rw [missing_eq] at builds_eq
      exact response_of_builder_error builds_eq
  | none =>
      rw [missing_eq] at builds_eq
      exact response_of_builder builds_eq

end Engine

end Listing
