import Listing.Proofs.Memory.Layout
import Listing.Proofs.Rejection
import Listing.Proofs.Replay

/-!
# Lean responses

The mark for a lean response says that related rows are left unloaded.  It is a call like any other,
but nothing that a query answers depends on it: left out of a run of calls, it leaves behind the
same query but for the mark (`Source.Marks.unmarked_attemptAll`).  A request asks for the mark with
a parameter of its own, which can therefore be put into any place of a request with any value,
without another effect than the mark (`Engine.pure_only_marks`).
-/

namespace Listing

/-- Whether a call is the mark for lean responses. -/
def Call.isMark : Call → Bool
  | withoutEagerLoading => true
  | _ => false

theorem Call.isMark_iff {call : Call} : call.isMark ↔ call = withoutEagerLoading := by
  cases call with
  | withoutEagerLoading => exact iff_of_true rfl rfl
  | _ => exact iff_of_false Bool.false_ne_true nofun

/-- Reports tell of the mark and of no other call whether related rows are loaded. -/
theorem Report.eager_after (report : Report) (call : Call) :
    (report.after call).eagerLoading = (report.eagerLoading && !call.isMark) := by
  cases call with
  | withoutEagerLoading => exact (Bool.and_false _).symm
  | _ => exact (Bool.and_true _).symm

/-! ## Kinds of queries -/

/-- A kind of query with a flag that the mark clears and nothing else changes, and of which
`unmarked` forgets the mark: without it the query takes all other calls and answers as before. -/
structure Source.Marks {Q Row : Type} [Source Q Row] (eager : Q → Bool)
    (unmarked : Q → Q) : Prop where
  eager_attempt : ∀ (query : Q) (call : Call),
    eager (Source.attempt query call) = (eager query && !call.isMark)
  unmarked_mark : ∀ query : Q, unmarked (Source.attempt query .withoutEagerLoading) = unmarked query
  unmarked_attempt : ∀ (query : Q) {call : Call}, call.isMark = false →
    unmarked (Source.attempt query call) = Source.attempt (unmarked query) call
  compile_unmarked : ∀ query : Q, Page.compile (unmarked query) = Page.compile query

namespace Memory.Query

/-- The query without the mark. -/
def unmarked (query : Query) : Query :=
  { query with log := query.log.filter (!·.isMark), eagerLoading := true }

theorem compile_unmarked (query : Query) : Page.compile query.unmarked = Page.compile query := by
  apply compile_congr
  · apply List.filter_congr
    intro row _
    have idle : ∀ call : Call, (call.narrows && !call.isMark) = call.narrows := by
      intro call
      cases call <;> rfl
    rw [← row.all_meets_filter_narrows, ← row.all_meets_filter_narrows query.scopes query.log,
      unmarked, List.filter_filter]
    simp only [idle]
  · have orderings_eq : query.unmarked.orderings = query.orderings := by
      rw [orderings, unmarked, List.filterMap_filter]
      apply List.filterMap_congr
      intro call _
      cases call <;> rfl
    rw [layout, orderings_eq]
    rfl

theorem marks : Source.Marks eagerLoading unmarked where
  eager_attempt query call :=
    (congrArg Report.eagerLoading (query.report_attempt call)).trans (query.report.eager_after call)
  unmarked_mark := by
    intro query
    simp [Source.attempt, Source.perform, perform, record, unmarked, Call.isMark]
  unmarked_attempt := by
    intro query call call_false
    cases call with
    | withoutEagerLoading => cases call_false
    | stripPagination =>
        simp only [Source.attempt, Source.perform, perform, unmarked, List.filter_filter,
          Bool.and_comm]
    | applyScope name arguments =>
        by_cases known : (query.scopes.lookup name).isSome <;>
          simp [Source.attempt, Source.perform, perform, record, unmarked, Call.isMark, known]
    | _ => simp [Source.attempt, Source.perform, perform, record, unmarked, Call.isMark]
  compile_unmarked := compile_unmarked

end Memory.Query

namespace Sql.Query

/-- The query without the mark. -/
def unmarked (query : Query) : Query :=
  { query with eagerLoading := true }

theorem marks : Source.Marks eagerLoading unmarked where
  eager_attempt query call :=
    (congrArg Report.eagerLoading (query.report_attempt call)).trans (query.report.eager_after call)
  unmarked_mark := fun _ => rfl
  unmarked_attempt := by
    intro query call call_false
    cases call with
    | withoutEagerLoading => cases call_false
    | like field pattern operator => cases operator <;> rfl
    | hasIn relation field items | hasEq relation field item =>
        simp only [Source.attempt, Source.perform, perform, keepRelated, unmarked]
        split <;> rfl
    | applyScope name arguments =>
        simp only [Source.attempt, Source.perform, perform, unmarked]
        cases Bindings.last? name query.scopes <;> rfl
    | _ => rfl
  compile_unmarked := fun _ => rfl

end Sql.Query

namespace Engine

/-- Whatever the query is, two engines answer alike and fail alike, and what they build differs in
the mark alone. -/
structure AlikeUnmarked {Q Row : Type} [Source Q Row] (unmarked : Q → Q) (config : Config)
    (engine other : Engine) : Prop where
  response : ∀ query : Q, engine.response config query = other.response config query
  failed : ∀ (query : Q) (reason : Failure),
    engine.builder config query = .error reason ↔ other.builder config query = .error reason
  built : ∀ {query built otherBuilt : Q}, engine.builder config query = .ok built →
    other.builder config query = .ok otherBuilt → unmarked built = unmarked otherBuilt

end Engine

namespace Source.Marks

variable {Q Row : Type} [Source Q Row] {eager : Q → Bool} {unmarked : Q → Q}

theorem eager_attemptAll (marks : Marks eager unmarked) (query : Q) (calls : List Call) :
    eager (Source.attemptAll query calls) = (eager query && !calls.any Call.isMark) := by
  induction calls generalizing query with
  | nil => simp
  | cons call calls ih =>
      rw [List.any_cons, Bool.not_or, ← Bool.and_assoc, ← marks.eager_attempt]
      exact ih _

/-- Without the mark a query is as it would have been without the marks among the calls. -/
theorem unmarked_attemptAll (marks : Marks eager unmarked) (query : Q) (calls : List Call) :
    unmarked (Source.attemptAll query calls) =
      Source.attemptAll (unmarked query) (calls.filter (!·.isMark)) := by
  induction calls generalizing query with
  | nil => rfl
  | cons call calls ih =>
      cases mark_eq : call.isMark with
      | true =>
          obtain rfl := Call.isMark_iff.mp mark_eq
          rw [List.filter_cons_of_neg (by simp [mark_eq]), ← marks.unmarked_mark query]
          exact ih _
      | false =>
          rw [List.filter_cons_of_pos (by simp [mark_eq])]
          calc unmarked (Source.attemptAll (Source.attempt query call) calls)
            _ = Source.attemptAll (unmarked (Source.attempt query call))
                  (calls.filter (!·.isMark)) := ih _
            _ = Source.attemptAll (Source.attempt (unmarked query) call)
                  (calls.filter (!·.isMark)) := by rw [marks.unmarked_attempt query mark_eq]

/-- Engines that apply the same scopes and make the same calls but for the mark are alike. -/
theorem alikeUnmarked [LawfulSource Q Row] (marks : Marks eager unmarked) {config : Config}
    {engine other : Engine} (scopes_eq : engine.activeScopes = other.activeScopes)
    (calls_eq : (engine.calls config).filter (!·.isMark) =
      (other.calls config).filter (!·.isMark)) :
    engine.AlikeUnmarked unmarked config other := by
  have allMissing := fun query : Q => Engine.missingScope?_congr scopes_eq query
  have allUnmarked : ∀ query : Q, unmarked (Source.attemptAll query (engine.calls config)) =
      unmarked (Source.attemptAll query (other.calls config)) := by
    intro query
    rw [marks.unmarked_attemptAll, calls_eq, ← marks.unmarked_attemptAll]
  constructor
  · intro query
    rw [Engine.response_eq, Engine.response_eq, allMissing, ← marks.compile_unmarked, allUnmarked,
      marks.compile_unmarked]
  · intro query reason
    rw [Engine.builder_eq, Engine.builder_eq, allMissing]
    cases other.missingScope? query <;> simp
  · intro query built otherBuilt built_eq other_eq
    obtain ⟨_, rfl⟩ := Engine.builder_eq_ok_iff.mp built_eq
    obtain ⟨_, rfl⟩ := Engine.builder_eq_ok_iff.mp other_eq
    exact allUnmarked query

end Source.Marks

/-! ## Engines -/

theorem Paging.ofPairs_insert_pure (before after : Pairs) (value : String) :
    (ofPairs (before ++ (pureName, value) :: after)).limit = (ofPairs (before ++ after)).limit ∧
      (ofPairs (before ++ (pureName, value) :: after)).offset =
        (ofPairs (before ++ after)).offset := by
  have allInput : ∀ name, pureName ≠ name →
      Pairs.input? (before ++ (pureName, value) :: after) name =
        Pairs.input? (before ++ after) name :=
    fun _ name_ne => Pairs.input?_insert name_ne before after
  rw [ofPairs, allInput limitName (by decide), allInput offsetName (by decide), ofPairs]
  exact ⟨rfl, rfl⟩

theorem Policy.keepAll_insert_pure (policy : Policy) (before after : Pairs) (value : String) :
    policy.keepAll (before ++ (Paging.pureName, value) :: after) =
      policy.keepAll (before ++ after) := by
  apply keepAll_insert
  intro param admits
  rw [← keep?_eq_some_iff_admits,
    policy.keep?_of_parse?_eq_none (by decide +kernel) value] at admits
  cases admits

namespace Engine

variable {policy : Policy} {request otherRequest : Request} {engine otherEngine : Engine}

/-- The host leaves related rows unloaded: a hook makes the mark, or the callback of a kept
parameter, or an added callback.  The hook for the default order runs only if no parameter orders
the rows. -/
inductive HostMarks (policy : Policy) (engine : Engine) (additions : List Addition)
    (config : Config) : Prop
  | prepare (mark_mem : .withoutEagerLoading ∈ policy.prepare) :
      HostMarks policy engine additions config
  | param {param : Param} {run : Callback} {calls : List Call} (param_mem : param ∈ engine.params)
      (target_eq : param.target = .callback run)
      (calls_eq : param.calls? config.likeOperator = some calls)
      (mark_mem : .withoutEagerLoading ∈ calls) : HostMarks policy engine additions config
  | defaultSorting (sorted : ∀ param ∈ engine.params, param.operator ≠ .sort)
      (mark_mem : .withoutEagerLoading ∈ policy.defaultSorting) :
      HostMarks policy engine additions config
  | callback {calls : List Call} (callback_mem : calls ∈ Addition.callbacks additions)
      (mark_mem : .withoutEagerLoading ∈ calls) : HostMarks policy engine additions config

theorem mark_mem_paramCalls_iff (made : ofRequest? policy request = .ok engine)
    (config : Config) :
    .withoutEagerLoading ∈ engine.paramCalls config ↔
      ∃ param ∈ engine.params, ∃ run calls, param.target = .callback run ∧
        param.calls? config.likeOperator = some calls ∧ .withoutEagerLoading ∈ calls := by
  rw [paramCalls, List.mem_flatMap]
  constructor
  · rintro ⟨param, param_mem, mark_mem⟩
    obtain ⟨pair, calls, admits, calls_eq⟩ :=
      exists_calls?_of_mem_params made config.likeOperator param_mem
    rw [calls_eq, Option.getD_some] at mark_mem
    cases target_eq : param.target with
    | callback run => exact ⟨param, param_mem, run, calls, target_eq, calls_eq, mark_mem⟩
    | field name =>
        obtain ⟨_, named, _⟩ := admits.within target_eq calls_eq mark_mem
        cases named
  · rintro ⟨param, param_mem, _, calls, _, calls_eq, mark_mem⟩
    exact ⟨param, param_mem, by rwa [calls_eq]⟩

/-- An engine makes the mark exactly if the request or the host wants it. -/
theorem mark_mem_calls_iff (made : ofRequest? policy request = .ok engine)
    (additions : List Addition) (config : Config) :
    .withoutEagerLoading ∈ (engine.addAll additions).calls config ↔
      request.pairs.has Paging.pureName ∨ HostMarks policy engine additions config := by
  have noScopes : .withoutEagerLoading ∉ (engine.addAll additions).activeScopes.map scopeCall := by
    intro mark_mem
    obtain ⟨scope, _, scope_eq⟩ := List.mem_map.mp mark_mem
    cases scope_eq
  have noClosing : .withoutEagerLoading ∉ (engine.addAll additions).closingCalls config :=
    fun mark_mem => Bool.false_ne_true (isPage_of_mem_closingCalls mark_mem)
  rw [calls, hostCalls, openingCalls_addAll made]
  simp only [List.mem_append, noScopes, noClosing, or_false, mark_mem_paramCalls_iff made,
    List.mem_flatten]
  constructor
  · rintro ((((prepare_mem | param_exists) | sorting_mem) | callback_exists) | pure_mem)
    · exact .inr (.prepare prepare_mem)
    · obtain ⟨param, param_mem, run, calls, target_eq, calls_eq, mark_mem⟩ := param_exists
      exact .inr (.param param_mem target_eq calls_eq mark_mem)
    · rw [List.mem_ite_nil_left] at sorting_mem
      obtain ⟨unsorted, mark_mem⟩ := sorting_mem
      refine .inr (.defaultSorting (fun param param_mem sort_eq => ?_) mark_mem)
      exact unsorted ⟨param, param_mem, sort_eq⟩
    · obtain ⟨calls, callback_mem, mark_mem⟩ := callback_exists
      exact .inr (.callback callback_mem mark_mem)
    · rw [List.mem_ite_nil_right] at pure_mem
      exact .inl pure_mem.1
  · rintro (isPure | hostMarks)
    · exact .inr (List.mem_ite_nil_right.mpr ⟨isPure, List.mem_singleton_self _⟩)
    · cases hostMarks with
      | prepare mark_mem => exact .inl (.inl (.inl (.inl mark_mem)))
      | param param_mem target_eq calls_eq mark_mem =>
          exact .inl (.inl (.inl (.inr ⟨_, param_mem, _, _, target_eq, calls_eq, mark_mem⟩)))
      | defaultSorting sorted mark_mem =>
          refine .inl (.inl (.inr (List.mem_ite_nil_left.mpr ⟨?_, mark_mem⟩)))
          rintro ⟨param, param_mem, sort_eq⟩
          exact sorted param param_mem sort_eq
      | callback callback_mem mark_mem => exact .inl (.inr ⟨_, callback_mem, mark_mem⟩)

/-- A query that is built has its flag cleared exactly if it was, or if the request or the host
wants the mark. -/
theorem eager_eq_false_iff {Q Row : Type} [Source Q Row] [LawfulSource Q Row] {eager : Q → Bool}
    {unmarked : Q → Q} (marks : Source.Marks eager unmarked)
    (made : ofRequest? policy request = .ok engine) {additions : List Addition}
    {config : Config} {query built : Q}
    (built_eq : (engine.addAll additions).builder config query = .ok built) :
    eager built = false ↔
      eager query = false ∨ request.pairs.has Paging.pureName ∨
        HostMarks policy engine additions config := by
  obtain ⟨_, rfl⟩ := builder_eq_ok_iff.mp built_eq
  rw [marks.eager_attemptAll, Bool.and_eq_false_iff, Bool.not_eq_false', List.any_eq_true,
    ← mark_mem_calls_iff made]
  simp only [Call.isMark_iff, exists_eq_right]

/-- Engines with the same parameters that ask for the same page make the same calls but for the
mark. -/
theorem filter_isMark_calls (made : ofRequest? policy request = .ok engine)
    (otherMade : ofRequest? policy otherRequest = .ok otherEngine)
    (params_eq : engine.params = otherEngine.params)
    (limit_eq : (Paging.ofPairs request.pairs).limit = (Paging.ofPairs otherRequest.pairs).limit)
    (offset_eq : (Paging.ofPairs request.pairs).offset = (Paging.ofPairs otherRequest.pairs).offset)
    (additions : List Addition) (config : Config) :
    ((engine.addAll additions).calls config).filter (!·.isMark) =
      ((otherEngine.addAll additions).calls config).filter (!·.isMark) := by
  have allMark : ∀ pure : Bool, (if pure then [Call.withoutEagerLoading] else []).filter
      (!·.isMark) = [] := by
    intro pure
    cases pure <;> rfl
  have scopes_eq := activeScopes_addAll_congr made otherMade (rfl : additions.filter _ = _)
  have closing_eq :=
    closingCalls_addAll_of_paging made otherMade limit_eq offset_eq additions config
  rw [calls, calls, hostCalls, hostCalls, scopes_eq, closing_eq, openingCalls_addAll made,
    openingCalls_addAll otherMade, paramCalls, paramCalls, params_eq]
  simp only [List.filter_append, allMark]

/-- The parameter for a lean response has no effect but the mark.  Put into any place of a request
with any value, it leaves the engine with the same parameters, limit and offset; on every query on
stored rows and on a table the engine fails as before or builds the same query but for the mark, and
it executes the same statements and answers with the same page.  A query that is built is marked
exactly if it was before, the request has the parameter, or the host makes the mark. -/
theorem pure_only_marks (policy : Policy) (additions : List Addition) (config : Config) :
    (∀ (request otherRequest : Request) (before after : Pairs) (value : String),
      request.pairs = before ++ after →
        otherRequest.pairs = before ++ ("pure", value) :: after →
          (∀ reason, ofRequest? policy request = .error reason ↔
            ofRequest? policy otherRequest = .error reason) ∧
          ∀ engine, ofRequest? policy request = .ok engine →
            ∃ otherEngine, ofRequest? policy otherRequest = .ok otherEngine ∧
              let host := engine.addAll additions
              let otherHost := otherEngine.addAll additions
              host.params = otherHost.params ∧
                host.limit config = otherHost.limit config ∧ host.offset = otherHost.offset ∧
                host.AlikeUnmarked Memory.Query.unmarked config otherHost ∧
                host.AlikeUnmarked Sql.Query.unmarked config otherHost) ∧
    ∀ (request : Request) (engine : Engine), ofRequest? policy request = .ok engine →
      (∀ query built : Memory.Query, (engine.addAll additions).builder config query = .ok built →
        (built.eagerLoading = false ↔
          query.eagerLoading = false ∨ request.pairs.has "pure" ∨
            HostMarks policy engine additions config)) ∧
      ∀ query built : Sql.Query, (engine.addAll additions).builder config query = .ok built →
        (built.eagerLoading = false ↔
          query.eagerLoading = false ∨ request.pairs.has "pure" ∨
            HostMarks policy engine additions config) := by
  constructor
  · intro request otherRequest before after value pairs_eq otherPairs_eq
    constructor
    · intro reason
      rw [ofRequest?_eq_error_iff, ofRequest?_eq_error_iff]
    · intro engine made
      have otherMade := ofRequest?_of_check policy otherRequest (ofRequest?_eq_ok_iff.mp made).1
      have params_eq : engine.params = policy.keepAll otherRequest.pairs := by
        rw [(ofRequest?_eq_ok_iff.mp made).2, pairs_eq, otherPairs_eq]
        exact (policy.keepAll_insert_pure before after value).symm
      obtain ⟨limit_eq, offset_eq⟩ : (Paging.ofPairs otherRequest.pairs).limit =
            (Paging.ofPairs request.pairs).limit ∧
          (Paging.ofPairs otherRequest.pairs).offset = (Paging.ofPairs request.pairs).offset := by
        rw [pairs_eq, otherPairs_eq]
        exact Paging.ofPairs_insert_pure before after value
      have scopes_eq := activeScopes_addAll_congr made otherMade (rfl : additions.filter _ = _)
      have calls_eq :=
        filter_isMark_calls made otherMade params_eq limit_eq.symm offset_eq.symm additions config
      refine ⟨_, otherMade, ?_, ?_, ?_, ?_, ?_⟩
      · rw [(addAll_origin engine additions).2.1, params_eq, (addAll_origin _ additions).2.1]
      · exact limit_addAll_of_paging made otherMade limit_eq.symm additions config
      · exact offset_addAll_of_paging made otherMade offset_eq.symm additions
      · exact Memory.Query.marks.alikeUnmarked scopes_eq calls_eq
      · exact Sql.Query.marks.alikeUnmarked scopes_eq calls_eq
  · intro request engine made
    constructor
    · intro query built built_eq
      exact eager_eq_false_iff Memory.Query.marks made built_eq
    · intro query built built_eq
      exact eager_eq_false_iff Sql.Query.marks made built_eq

/-- The request for published books with the parameter in its middle. -/
def leanBooksRequest : Request :=
  ⟨some "where_status=published&pure=no&limit=2"⟩

theorem pure_only_marks_books :
    ∃ engine otherEngine, ofRequest? Catalogue.Books.policy plainBooksRequest = .ok engine ∧
      ofRequest? Catalogue.Books.policy leanBooksRequest = .ok otherEngine ∧
      (engine.addAll mixedAdditions).response {} scopedBooks =
        (otherEngine.addAll mixedAdditions).response {} scopedBooks ∧
      (∀ connection, (engine.addAll mixedAdditions).response {} (Catalogue.Books.query connection) =
        (otherEngine.addAll mixedAdditions).response {} (Catalogue.Books.query connection)) ∧
      (∃ built, (engine.addAll mixedAdditions).builder {} scopedBooks = .ok built ∧
        built.eagerLoading = true) ∧
      ∀ built, (otherEngine.addAll mixedAdditions).builder {} scopedBooks = .ok built →
        built.eagerLoading = false := by
  have pairs_eq : plainBooksRequest.pairs = [("where_status", "published"), ("limit", "2")] := by
    decide +kernel
  have otherPairs_eq : leanBooksRequest.pairs =
      [("where_status", "published"), ("pure", "no"), ("limit", "2")] := by
    decide +kernel
  obtain ⟨allPlaces, allFlags⟩ := pure_only_marks Catalogue.Books.policy mixedAdditions {}
  have made := ofRequest?_of_check Catalogue.Books.policy plainBooksRequest rfl
  obtain ⟨otherEngine, otherMade, _, _, _, stored, tableAlikeUnmarked⟩ :=
    (allPlaces plainBooksRequest leanBooksRequest [("where_status", "published")]
      [("limit", "2")] "no" pairs_eq otherPairs_eq).2 _ made
  refine ⟨_, otherEngine, made, otherMade, stored.response scopedBooks,
    fun connection => tableAlikeUnmarked.response _, ?_, ?_⟩
  · rw [pairs_eq]
    exact ⟨_, builder_eq_ok_iff.mpr ⟨by decide, rfl⟩, by decide +kernel⟩
  · intro built built_eq
    apply ((allFlags leanBooksRequest otherEngine otherMade).1 scopedBooks built built_eq).mpr
    rw [otherPairs_eq]
    exact .inr (.inl rfl)

end Engine

end Listing
