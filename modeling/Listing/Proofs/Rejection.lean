import Listing.Proofs.Memory.CallLog
import Listing.Proofs.Narrowing
import Listing.Proofs.Paging.Cap

/-!
# What requests cannot do

Whether a listing fails is settled by the policy, by what the host adds and by the scopes of the
query.  An engine is refused exactly if the whitelist of some operator has the wrong shape
(`Engine.ofRequest?_eq_error_iff`), and an engine that was made misses the same scope for every
request.  A pair of a request that is no parameter and does not name the page leaves no trace
(`Engine.rejections_traceless`).
-/

namespace Listing

namespace Policy

/-! ## Whitelists of the wrong shape -/

/-- The whitelist of an operator has entries, but not of the shape that the operator needs: fields
for an operator on related rows, or relations for another one.  The custom operator needs none. -/
inductive Misfits (policy : Policy) (operator : Operator) : Prop
  | fields {names : List String} (builtIn : operator ≠ .custom)
      (whitelist_eq : policy.whitelist operator = .fields names) (names_ne : names ≠ [])
      (relational : operator.isRelational = true) : Misfits policy operator
  | relations {entries : List (String × List String)} (builtIn : operator ≠ .custom)
      (whitelist_eq : policy.whitelist operator = .relations entries) (entries_ne : entries ≠ [])
      (plain : operator.isRelational = false) : Misfits policy operator

/-- The first operator, in the order in which keys are compared with them, whose whitelist has the
wrong shape. -/
def FirstMisfit (policy : Policy) (operator : Operator) : Prop :=
  policy.Misfits operator ∧
    ∃ before after, Operator.all = before ++ operator :: after ∧
      ∀ earlier ∈ before, ¬policy.Misfits earlier

variable {policy : Policy} {operator : Operator}

/-- The check finds fault with the operators whose whitelists have the wrong shape. -/
theorem misfits_iff :
    (operator != .custom && !(policy.whitelist operator).fits operator) = true ↔
      policy.Misfits operator := by
  rw [Bool.and_eq_true, bne_iff_ne, Bool.not_eq_true']
  constructor
  · rintro ⟨builtIn, fits⟩
    cases whitelist_eq : policy.whitelist operator with
    | fields names =>
        simp only [whitelist_eq, Whitelist.fits, Whitelist.isEmpty, Whitelist.isRelation,
          Bool.or_eq_false_iff, List.isEmpty_eq_false_iff, beq_eq_false_iff_ne] at fits
        exact .fields builtIn whitelist_eq fits.1 (by simpa using fits.2)
    | relations entries =>
        simp only [whitelist_eq, Whitelist.fits, Whitelist.isEmpty, Whitelist.isRelation,
          Bool.or_eq_false_iff, List.isEmpty_eq_false_iff, beq_eq_false_iff_ne] at fits
        exact .relations builtIn whitelist_eq fits.1 (by simpa using fits.2)
  · rintro (⟨builtIn, whitelist_eq, names_ne, relational⟩ |
      ⟨builtIn, whitelist_eq, entries_ne, plain⟩)
    · refine ⟨builtIn, ?_⟩
      simp [whitelist_eq, Whitelist.fits, Whitelist.isEmpty, Whitelist.isRelation, names_ne,
        relational]
    · refine ⟨builtIn, ?_⟩
      simp [whitelist_eq, Whitelist.fits, Whitelist.isEmpty, Whitelist.isRelation, entries_ne,
        plain]

theorem misfit?_eq_some_iff : policy.misfit? = some operator ↔ policy.FirstMisfit operator := by
  rw [misfit?, List.find?_eq_some_iff_append, misfits_iff, FirstMisfit]
  refine and_congr_right fun _ => exists_congr fun before => exists_congr fun after => ?_
  refine and_congr_right fun _ => forall₂_congr fun earlier _ => ?_
  rw [← misfits_iff, Bool.not_eq_true', Bool.not_eq_true]

/-- A policy fails its check exactly for the first operator whose whitelist has the wrong shape. -/
theorem check_eq_error_iff {reason : Failure} :
    policy.check = .error reason ↔
      ∃ operator, policy.FirstMisfit operator ∧
        reason = .whitelistShape operator
          (if operator.isRelational then "relation" else "field list") := by
  simp only [← misfit?_eq_some_iff, check]
  cases policy.misfit? with
  | none => simp
  | some operator =>
      simp only [Except.error.injEq, Option.some.injEq, exists_eq_left', Whitelist.expectedShape]
      exact eq_comm

/-- Some operator is the first of those whose whitelists have the wrong shape, if there are any. -/
theorem exists_firstMisfit_iff :
    (∃ operator, policy.FirstMisfit operator) ↔ ∃ operator, policy.Misfits operator := by
  constructor
  · rintro ⟨operator, misfits, _⟩
    exact ⟨operator, misfits⟩
  · rintro ⟨operator, misfits⟩
    simp only [← misfit?_eq_some_iff, ← Option.isSome_iff_exists]
    exact List.find?_isSome.mpr ⟨operator, Operator.mem_all operator, misfits_iff.mpr misfits⟩

/-! ## Rejected pairs -/

/-- A pair that is kept as no parameter has no part in which parameters are kept. -/
theorem keepAll_insert {pair : String × String} (dropped : ∀ param, ¬policy.Admits pair param)
    (before after : Pairs) :
    policy.keepAll (before ++ pair :: after) = policy.keepAll (before ++ after) := by
  have eq_none : policy.keep? pair = none :=
    Option.eq_none_iff_forall_ne_some.mpr fun param keep_eq =>
      dropped param ((policy.keep?_eq_some_iff_admits pair param).mp keep_eq)
  rw [keepAll, keepAll, List.filterMap_append, List.filterMap_cons_none eq_none,
    List.filterMap_append]

end Policy

/-- A pair with another name has no part in which value is given for a name. -/
theorem Pairs.input?_insert {pair : String × String} {name : String} (name_ne : pair.1 ≠ name)
    (before after : Pairs) :
    Pairs.input? (before ++ pair :: after) name = Pairs.input? (before ++ after) name := by
  have after_eq : Bindings.last? name (pair :: after) = Bindings.last? name after := by
    rw [Bindings.last?]
    cases Bindings.last? name after <;> simp [name_ne]
  rw [Pairs.input?, Pairs.input?, Bindings.last?_append, Bindings.last?_append, after_eq]

theorem Paging.ofPairs_insert {pair : String × String}
    (noName : pair.1 ∉ [limitName, offsetName, pureName]) (before after : Pairs) :
    ofPairs (before ++ pair :: after) = ofPairs (before ++ after) := by
  simp only [List.mem_cons, List.not_mem_nil, or_false, not_or] at noName
  obtain ⟨limit_ne, offset_ne, pure_ne⟩ := noName
  simp only [ofPairs, Pairs.input?_insert limit_ne, Pairs.input?_insert offset_ne,
    Pairs.input?_insert pure_ne]

namespace Engine

variable {policy : Policy} {request otherRequest : Request} {engine otherEngine : Engine}

/-- An engine is refused exactly if the policy fails its check, whatever the request is. -/
theorem ofRequest?_eq_error_iff {reason : Failure} :
    ofRequest? policy request = .error reason ↔ policy.check = .error reason := by
  simp only [ofRequest?]
  cases policy.check <;> simp [bind, Except.bind, pure, Except.pure]

/-- What becomes of a query if a request is made under a policy: the query after all calls of the
engine with the additions of the host, or the failure. -/
def built {Q Row : Type} [Source Q Row] (policy : Policy) (additions : List Addition)
    (config : Config) (query : Q) (request : Request) : Except Failure Q := do
  let engine ← ofRequest? policy request
  (engine.addAll additions).builder config query

section

variable {Q Row : Type} [Source Q Row]

theorem built_of_engine (made : ofRequest? policy request = .ok engine)
    (additions : List Addition) (config : Config) (query : Q) :
    built policy additions config query request =
      (engine.addAll additions).builder config query := by
  simp [built, made, bind, Except.bind]

/-- Two requests that are kept the same parameters of and ask for the same page, in a lean response
or not, have the same effect on a query. -/
theorem built_congr
    (params_eq : policy.keepAll request.pairs = policy.keepAll otherRequest.pairs)
    (paging_eq : Paging.ofPairs request.pairs = Paging.ofPairs otherRequest.pairs)
    (additions : List Addition) (config : Config) (query : Q) :
    built policy additions config query request =
      built policy additions config query otherRequest := by
  cases check_eq : policy.check with
  | error reason => simp [built, ofRequest?_eq_error_iff.mpr check_eq, bind, Except.bind]
  | ok _ =>
      have made := ofRequest?_of_check policy request check_eq
      have otherMade := ofRequest?_of_check policy otherRequest check_eq
      have pure_eq : request.pairs.has Paging.pureName =
          otherRequest.pairs.has Paging.pureName := by
        rw [← Paging.isPure_ofPairs, paging_eq, Paging.isPure_ofPairs]
      rw [built_of_engine made, built_of_engine otherMade]
      apply builder_congr
      · exact openingCalls_addAll_congr made otherMade params_eq pure_eq rfl config
      · exact activeScopes_addAll_congr made otherMade rfl
      · exact closingCalls_addAll_of_paging made otherMade (congrArg Paging.limit paging_eq)
          (congrArg Paging.offset paging_eq) additions config

/-- A pair that is inserted, is kept as no parameter and does not name the page changes nothing. -/
theorem built_insert {before after : Pairs} {pair : String × String}
    (request_eq : request.pairs = before ++ after)
    (other_eq : otherRequest.pairs = before ++ pair :: after)
    (noName : pair.1 ∉ [Paging.limitName, Paging.offsetName, Paging.pureName])
    (dropped : ∀ param, ¬policy.Admits pair param) (additions : List Addition) (config : Config)
    (query : Q) :
    built policy additions config query otherRequest =
      built policy additions config query request := by
  apply built_congr
  · rw [request_eq, other_eq, Policy.keepAll_insert dropped]
  · rw [request_eq, other_eq, Paging.ofPairs_insert noName]

/-- An engine fails for a scope that the query does not have and for nothing else. -/
theorem exists_unknownScope_of_builder [LawfulSource Q Row] {config : Config} {query : Q}
    {reason : Failure} (failed : engine.builder config query = .error reason) :
    ∃ name, reason = .unknownScope name := by
  rw [builder_eq] at failed
  cases missing_eq : engine.missingScope? query with
  | none => simp [missing_eq] at failed
  | some name =>
      rw [missing_eq] at failed
      exact ⟨name, (Except.error.inj failed).symm⟩

theorem builder_eq_error_congr [LawfulSource Q Row]
    (made : ofRequest? policy request = .ok engine)
    (otherMade : ofRequest? policy otherRequest = .ok otherEngine) (additions : List Addition)
    (config : Config) (query : Q) (reason : Failure) :
    (engine.addAll additions).builder config query = .error reason ↔
      (otherEngine.addAll additions).builder config query = .error reason := by
  have scopes_eq := activeScopes_addAll_congr made otherMade (rfl : additions.filter _ = _)
  rw [builder_eq, builder_eq, missingScope?_congr scopes_eq]
  cases (otherEngine.addAll additions).missingScope? query <;> simp

end

/-- No request makes a listing fail.  An engine is refused exactly if the whitelist of some operator
has the wrong shape, for the first such operator and for every request alike; an engine that was
made fails only for a scope that the query does not have, for the same one with every request.  A
pair that is inserted into a request, is kept as no parameter and does not name the page changes
nothing: the query that is built is the same, or the failure is. -/
theorem rejections_traceless (policy : Policy) (additions : List Addition) (config : Config) :
    (∀ request, (∃ reason, ofRequest? policy request = .error reason) ↔
      ∃ operator, policy.Misfits operator) ∧
    (∀ request reason, ofRequest? policy request = .error reason ↔
      ∃ operator, policy.FirstMisfit operator ∧
        reason = .whitelistShape operator
          (if operator.isRelational then "relation" else "field list")) ∧
    (∀ (Q Row : Type) [Source Q Row] [LawfulSource Q Row] (query : Q) request engine,
      ofRequest? policy request = .ok engine →
        ∀ reason, (engine.addAll additions).builder config query = .error reason →
          (∃ name, reason = .unknownScope name) ∧
            ∀ otherRequest otherEngine, ofRequest? policy otherRequest = .ok otherEngine →
              (otherEngine.addAll additions).builder config query = .error reason) ∧
    ∀ (Q Row : Type) [Source Q Row] (query : Q) (request otherRequest : Request)
      (before after : Pairs) (pair : String × String),
      request.pairs = before ++ after → otherRequest.pairs = before ++ pair :: after →
        pair.1 ∉ ["limit", "offset", "pure"] → (∀ param, ¬policy.Admits pair param) →
          built policy additions config query otherRequest =
            built policy additions config query request := by
  have refused : ∀ request reason, ofRequest? policy request = .error reason ↔
      ∃ operator, policy.FirstMisfit operator ∧
        reason = .whitelistShape operator
          (if operator.isRelational then "relation" else "field list") :=
    fun request reason => ofRequest?_eq_error_iff.trans Policy.check_eq_error_iff
  refine ⟨?_, refused, ?_, ?_⟩
  · intro request
    rw [← Policy.exists_firstMisfit_iff]
    simp only [refused]
    constructor
    · rintro ⟨_, operator, firstMisfit, _⟩
      exact ⟨operator, firstMisfit⟩
    · rintro ⟨operator, firstMisfit⟩
      exact ⟨_, operator, firstMisfit, rfl⟩
  · intro Q Row _ _ query request engine made reason failed
    refine ⟨exists_unknownScope_of_builder failed, ?_⟩
    intro otherRequest otherEngine otherMade
    exact (builder_eq_error_congr made otherMade additions config query reason).mp failed
  · intro Q Row _ query request otherRequest before after pair pairs_eq others_eq noName dropped
    exact built_insert pairs_eq others_eq noName dropped additions config query

/-- A policy with two whitelists of the wrong shape. -/
def swappedPolicy : Policy where
  whitelist
    | .anyOf => .relations [("tags", ["name"])]
    | .hasAny => .fields ["status"]
    | _ => .empty

/-- A request for published books. -/
def plainBooksRequest : Request :=
  ⟨some "where_status=published&limit=2"⟩

/-- The same request with a condition on a field that is not listed for it. -/
def probingRequest : Request :=
  ⟨some "where_status=published&where_price=40&limit=2"⟩

theorem rejections_traceless_books :
    ofRequest? swappedPolicy probingRequest = .error (.whitelistShape .hasAny "relation") ∧
      (∃ query, built Catalogue.Books.policy mixedAdditions {} scopedBooks plainBooksRequest =
          .ok query ∧
        built Catalogue.Books.policy mixedAdditions {} scopedBooks probingRequest = .ok query) ∧
      ∃ engine, ofRequest? Catalogue.Books.policy probingRequest = .ok engine ∧
        (engine.addAll [.scope "missing" []]).builder {} scopedBooks =
          .error (.unknownScope "missing") := by
  have pairs_eq : plainBooksRequest.pairs = [("where_status", "published"), ("limit", "2")] := by
    decide +kernel
  have other_eq : probingRequest.pairs =
      [("where_status", "published"), ("where_price", "40"), ("limit", "2")] := by
    decide +kernel
  have dropped : ∀ param, ¬Catalogue.Books.policy.Admits ("where_price", "40") param := by
    intro param admits
    rw [← Policy.keep?_eq_some_iff_admits] at admits
    cases admits
  have firstMisfit : swappedPolicy.FirstMisfit .hasAny := Policy.misfit?_eq_some_iff.mp rfl
  have refused := (rejections_traceless swappedPolicy [] {}).2.1 probingRequest
    (.whitelistShape .hasAny "relation")
  have inserted := (rejections_traceless Catalogue.Books.policy mixedAdditions {}).2.2.2
    Memory.Query Json scopedBooks plainBooksRequest probingRequest [("where_status", "published")]
    [("limit", "2")] ("where_price", "40") pairs_eq other_eq (by decide) dropped
  have failed := (rejections_traceless Catalogue.Books.policy [.scope "missing" []] {}).2.2.1
    Memory.Query Json scopedBooks plainBooksRequest
  have made := ofRequest?_of_check Catalogue.Books.policy plainBooksRequest rfl
  have probingMade := ofRequest?_of_check Catalogue.Books.policy probingRequest rfl
  refine ⟨refused.mpr ⟨.hasAny, firstMisfit, rfl⟩, ?_, _, probingMade, ?_⟩
  · rw [inserted, built_of_engine made]
    exact ⟨_, builder_eq_ok_iff.mpr ⟨by decide +kernel, rfl⟩,
      builder_eq_ok_iff.mpr ⟨by decide +kernel, rfl⟩⟩
  · apply (failed _ made _ ?_).2 _ _ probingMade
    rw [builder_eq]
    rfl

end Engine

end Listing
