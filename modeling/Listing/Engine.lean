import Listing.Bindings
import Listing.Page
import Listing.Policy

/-!
# Engines

An engine applies one request to queries.  It is made from a policy and a request, the host adds
callbacks, scopes and a largest page, and then it can be applied any number of times, each time to
another copy of a query.

The calls on a query come in a fixed order: the preparation of the policy, the parameters in the
order of the request, the default order if no parameter ordered the rows, the callbacks of the host,
the mark for lean responses, the scopes in ascending order of their names, and at last the limit and
the offset.
-/

namespace Listing

/-- A request under a policy, with what the host adds to it. -/
structure Engine where
  policy : Policy
  request : Request
  params : List Param
  paging : Paging
  callbacks : List (List Call) := []
  /-- The scopes with their arguments, in ascending order of their names. -/
  scopes : List (String × List Json) := []
  excluded : List String := []
  maxLimit : Option Int := none

namespace Engine

/-! ## Construction -/

/-- The engine for a request.  It fails only if the policy is wired wrongly. -/
def ofRequest? (policy : Policy) (request : Request) : Except Failure Engine := do
  policy.check
  let pairs := request.pairs
  return { policy, request, params := policy.keepAll pairs, paging := .ofPairs pairs }

/-- An engine is made exactly if the policy passes its check, and it holds what the policy keeps of
the request. -/
theorem ofRequest?_eq_ok_iff {policy : Policy} {request : Request} {engine : Engine} :
    ofRequest? policy request = .ok engine ↔
      policy.check = .ok () ∧
        engine =
          { policy := policy, request := request, params := policy.keepAll request.pairs,
            paging := .ofPairs request.pairs } := by
  simp only [ofRequest?]
  cases policy.check with
  | error reason => simp [bind, Except.bind]
  | ok done => simp [bind, Except.bind, pure, Except.pure, eq_comm]

theorem ofRequest?_of_check (policy : Policy) (request : Request)
    (passes : policy.check = .ok ()) :
    ofRequest? policy request =
      .ok { policy := policy, request := request, params := policy.keepAll request.pairs,
            paging := .ofPairs request.pairs } :=
  ofRequest?_eq_ok_iff.mpr ⟨passes, rfl⟩

/-- Adds calls that are made after the parameters. -/
def withCallback (engine : Engine) (calls : List Call) : Engine :=
  { engine with callbacks := engine.callbacks ++ [calls] }

/-- Adds a scope; its arguments replace earlier ones. -/
def withScope (engine : Engine) (name : String) (arguments : List Json) : Engine :=
  { engine with scopes := Bindings.setSorted name arguments engine.scopes }

/-- Leaves a scope out, whether it was added before or is added later. -/
def withoutScope (engine : Engine) (name : String) : Engine :=
  { engine with excluded := engine.excluded ++ [name] }

/-- Sets the largest page size; below 1 there is none. -/
def withMaxLimit (engine : Engine) (rows : Int) : Engine :=
  { engine with maxLimit := some rows }

/-! ## The page -/

/-- The largest page size that applies, which may be none if it is below 1. -/
def effectiveMax (engine : Engine) (config : Config) : Int :=
  (engine.maxLimit.or engine.policy.maxLimit).getD config.defaultMaxLimit

/-- The page size: the requested one up to the largest. -/
def limit (engine : Engine) (config : Config) : Option Nat :=
  let largest := engine.effectiveMax config
  if largest ≤ 0 then engine.paging.limit
  else
    match engine.paging.limit with
    | none => some largest.toNat
    | some requested => some (min requested largest.toNat)

/-- The number of rows passed over. -/
def offset (engine : Engine) : Nat :=
  engine.paging.offset.getD 0

/-! ## The calls -/

/-- The calls of the parameters, in order. -/
def paramCalls (engine : Engine) (config : Config) : List Call :=
  engine.params.flatMap fun param => (param.calls? config.likeOperator).getD []

/-- Whether a parameter of the request orders the rows. -/
def isSorted (engine : Engine) (config : Config) : Bool :=
  engine.params.any fun param =>
    param.operator == .sort && (param.calls? config.likeOperator).isSome

/-- The calls before the scopes. -/
def openingCalls (engine : Engine) (config : Config) : List Call :=
  engine.policy.prepare ++ engine.paramCalls config ++
    (if engine.isSorted config then [] else engine.policy.defaultSorting) ++
    engine.callbacks.flatten ++
    (if engine.paging.isPure then [.withoutEagerLoading] else [])

/-- The scopes that are applied, in order. -/
def activeScopes (engine : Engine) : List (String × List Json) :=
  engine.scopes.filter fun scope => !engine.excluded.contains scope.1

/-- The calls after the scopes. -/
def closingCalls (engine : Engine) (config : Config) : List Call :=
  (match engine.limit config with
    | none => []
    | some rows => [.limit rows]) ++ [.offset engine.offset]

/-! ## Application -/

/-- A query after an application, with the failure that stopped it, if one did. -/
structure Applied (Q : Type) where
  query : Q
  failure : Option Failure

variable {Q Row : Type} [Source Q Row]

/-- Applies scopes up to the first that the query does not have. -/
def applyScopes (query : Q) : List (String × List Json) → Applied Q
  | [] => ⟨query, none⟩
  | (name, arguments) :: rest =>
      match Source.perform query (.applyScope name arguments) with
      | .error reason => ⟨query, some reason⟩
      | .ok next => applyScopes next rest

/-- Makes all calls on a query.  A scope that the query does not have ends the application; the
calls made before it stay. -/
def apply (engine : Engine) (config : Config) (query : Q) : Applied Q :=
  let opened := Source.attemptAll query (engine.openingCalls config)
  let narrowed := applyScopes opened engine.activeScopes
  match narrowed.failure with
  | some _ => narrowed
  | none => ⟨Source.attemptAll narrowed.query (engine.closingCalls config), none⟩

/-- The query with all calls made, or the failure. -/
def builder (engine : Engine) (config : Config) (query : Q) : Except Failure Q :=
  let applied := engine.apply config query
  match applied.failure with
  | some reason => .error reason
  | none => .ok applied.query

/-- The page of the request, its rows passed through a function. -/
def responseWith {α : Type} (engine : Engine) (config : Config) (query : Q)
    (transform : List Row → α) : Run (Page α) := do
  let built ← Run.ofExcept (engine.builder config query)
  Page.compileWith built transform

/-- The page of the request. -/
def response (engine : Engine) (config : Config) (query : Q) : Run (Page (List Row)) :=
  engine.responseWith config query id

/-- The page of the request, each row converted. -/
def responseAs {α : Type} (engine : Engine) (config : Config) (query : Q) (convert : Row → α) :
    Run (Page (List α)) :=
  engine.responseWith config query (List.map convert)

end Engine

end Listing
