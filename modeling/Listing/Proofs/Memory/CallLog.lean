import Listing.Catalogue.Books
import Listing.Memory.Query
import Listing.Proofs.Application
import Listing.Proofs.KeptCalls
import Listing.Proofs.Setup

/-!
# The record of an application

A query on stored rows records the calls that are made on it.  The main statement is
`Engine.builder_log`: after an engine was applied, the record names every stage once and in a fixed
order, whatever the request, the hooks and the additions are.  It needs that no hook or callback
removes the page, since that would take earlier calls out of the record, and that the query has the
scopes that are applied, since a missing one ends the application.
-/

namespace Listing

open Bindings (Ascending IsLast)

namespace Memory.Query

/-! ## Recorded calls -/

/-- Whether a query records a call.  It refuses the scopes that it does not have. -/
def knows (query : Query) : Call → Bool
  | .applyScope name _ => (query.scopes.lookup name).isSome
  | _ => true

/-- The calls that a query records, of those made on it. -/
def recorded (query : Query) (calls : List Call) : List Call :=
  calls.filter query.knows

theorem recorded_append (query : Query) (calls others : List Call) :
    query.recorded (calls ++ others) = query.recorded calls ++ query.recorded others :=
  List.filter_append ..

theorem recorded_of_known {query : Query} {calls : List Call}
    (known : ∀ call ∈ calls, query.knows call) : query.recorded calls = calls :=
  List.filter_eq_self.mpr known

theorem knows_of_named (query : Query) {call : Call} {named : String × Option String}
    (named_eq : call.named? = some named) : query.knows call = true := by
  cases call with
  | applyScope => cases named_eq
  | _ => rfl

@[simp]
theorem attempt_scopes (query : Query) (call : Call) :
    (Source.attempt query call).scopes = query.scopes := by
  cases call with
  | applyScope name arguments =>
      by_cases known : (query.scopes.lookup name).isSome <;>
        simp [Source.attempt, Source.perform, perform, record, known]
  | _ => rfl

instance : LawfulSource Query Json where
  hasScope query name := (query.scopes.lookup name).isSome
  hasScope_attempt query call := by simp only [attempt_scopes]
  perform_applyScope query name arguments := by
    by_cases known : (query.scopes.lookup name).isSome <;>
      simp [Source.attempt, Source.perform, perform, known]
  pagination_limit query rows := rfl
  pagination_offset query rows := rfl

/-- A call that removes nothing comes last in the record, if the query knows it. -/
theorem attempt_log (query : Query) {call : Call} (keeps : call.isStrip = false) :
    (Source.attempt query call).log = query.log ++ query.recorded [call] := by
  cases call with
  | stripPagination => simp [Call.isStrip] at keeps
  | applyScope name arguments =>
      by_cases known : (query.scopes.lookup name).isSome <;>
        simp [Source.attempt, Source.perform, perform, record, recorded, knows, known]
  | _ => rfl

@[simp]
theorem attemptAll_scopes (query : Query) (calls : List Call) :
    (Source.attemptAll query calls).scopes = query.scopes := by
  induction calls using List.reverseRecOn with
  | nil => rfl
  | append_singleton calls call ih =>
      rw [Source.attemptAll_concat, ← ih]
      exact attempt_scopes ..

/-- Which calls a query records does not depend on the calls that were made before. -/
theorem recorded_attemptAll (query : Query) (calls others : List Call) :
    (Source.attemptAll query calls).recorded others = query.recorded others := by
  apply List.filter_congr
  intro call _
  cases call <;> simp [knows]

/-- Calls that remove nothing come in their order at the end of the record. -/
theorem attemptAll_log (query : Query) {calls : List Call}
    (noneStrips : ∀ call ∈ calls, call.isStrip = false) :
    (Source.attemptAll query calls).log = query.log ++ query.recorded calls := by
  induction calls using List.reverseRecOn with
  | nil => simp [recorded]
  | append_singleton calls call ih =>
      have allCalls : ∀ earlier ∈ calls, earlier.isStrip = false :=
        fun earlier earlier_mem => noneStrips earlier (List.mem_append_left _ earlier_mem)
      have call_false : call.isStrip = false :=
        noneStrips call (List.mem_append_right _ (List.mem_singleton_self call))
      calc (Source.attemptAll query (calls ++ [call])).log
        _ = (Source.attempt (Source.attemptAll query calls) call).log := by
            rw [Source.attemptAll_concat]
        _ = query.log ++ query.recorded calls ++ query.recorded [call] := by
            rw [attempt_log _ call_false, ih allCalls, recorded_attemptAll]
        _ = query.log ++ query.recorded (calls ++ [call]) := by
            rw [List.append_assoc, ← recorded_append]

end Memory.Query

namespace Engine

open Memory (Query)

/-! ## Applications that succeed -/

/-- If the query has all scopes that are applied, then all calls are made. -/
theorem builder_of_known {engine : Engine} {query : Query}
    (known : ∀ scope ∈ engine.activeScopes, query.knows (scopeCall scope)) (config : Config) :
    engine.builder config query =
      .ok (Source.attemptAll query
        (engine.openingCalls config ++ engine.activeScopes.map scopeCall ++
          engine.closingCalls config)) :=
  builder_eq_ok_iff.mpr ⟨missingScope?_eq_none_iff.mpr known, rfl⟩

/-- A call that sets a page removes nothing and is known to every query. -/
theorem plain_of_isPage {call : Call} (isPage : call.isPage) (query : Query) :
    call.isStrip = false ∧ query.knows call := by
  cases call with
  | limit rows | offset rows => exact ⟨rfl, rfl⟩
  | _ => cases isPage

/-- If besides no call before the scopes removes anything, then all calls are in the record. -/
theorem builder_log_of_known {engine : Engine} {query : Query} {config : Config}
    (known : ∀ scope ∈ engine.activeScopes, query.knows (scopeCall scope))
    (allOpening : ∀ call ∈ engine.openingCalls config, call.isStrip = false) :
    ∃ built, engine.builder config query = .ok built ∧
      built.log =
        query.log ++ query.recorded (engine.openingCalls config) ++
          engine.activeScopes.map scopeCall ++ engine.closingCalls config := by
  refine ⟨_, builder_of_known known config, ?_⟩
  have scopes_eq : query.recorded (engine.activeScopes.map scopeCall) =
      engine.activeScopes.map scopeCall :=
    Query.recorded_of_known (List.forall_mem_map.mpr known)
  have closing_eq : query.recorded (engine.closingCalls config) = engine.closingCalls config :=
    Query.recorded_of_known fun call call_mem =>
      (plain_of_isPage (isPage_of_mem_closingCalls call_mem) query).2
  rw [Query.attemptAll_log, Query.recorded_append, Query.recorded_append, scopes_eq, closing_eq,
    List.append_assoc, List.append_assoc, List.append_assoc]
  intro call call_mem
  rcases List.mem_append.mp call_mem with call_mem | call_mem
  · rcases List.mem_append.mp call_mem with call_mem | call_mem
    · exact allOpening call call_mem
    · obtain ⟨scope, _, rfl⟩ := List.mem_map.mp call_mem
      rfl
  · exact (plain_of_isPage (isPage_of_mem_closingCalls call_mem) query).1

/-! ## The stages -/

/-- After an application the record names every stage once: the preparation, the parameters, the
default order if no parameter is one of the sort operator, the callbacks, the mark for lean
responses, the scopes, the limit if there is one, and the offset. -/
theorem builder_log {policy : Policy} {request : Request} {engine : Engine}
    (made : ofRequest? policy request = .ok engine) (neverStrips : policy.NeverStrips)
    {additions : List Addition}
    (callbacksOnly : ∀ calls ∈ Addition.callbacks additions, ∀ call ∈ calls, call.isStrip = false)
    {query : Query}
    (allScopes : ∀ name arguments, (name, arguments) ∈ Addition.scopes additions →
      name ∉ Addition.excluded additions → (query.scopes.lookup name).isSome)
    (config : Config) :
    ∃ built scopes,
      (engine.addAll additions).builder config query = .ok built ∧
      Ascending scopes ∧
      (∀ name arguments, (name, arguments) ∈ scopes ↔
        IsLast name arguments (Addition.scopes additions) ∧
          name ∉ Addition.excluded additions) ∧
      built.log =
        query.log ++
          query.recorded
            (policy.prepare ++
              engine.params.flatMap (fun param =>
                (param.calls? config.likeOperator).getD []) ++
              (if ∃ param ∈ engine.params, param.operator = .sort then []
                else policy.defaultSorting) ++
              (Addition.callbacks additions).flatten) ++
          (if request.pairs.has Paging.pureName then [.withoutEagerLoading] else []) ++
          scopes.map scopeCall ++
          ((engine.addAll additions).limit config).toList.map .limit ++
          [.offset (engine.addAll additions).offset] ∧
      ∀ param ∈ engine.params, ∃ calls, param.calls? config.likeOperator = some calls ∧
        ∀ field, param.target = .field field →
          ∀ call ∈ calls, call.Within policy param.operator field := by
  have fresh : engine.scopes = [] ∧ engine.excluded = [] := by
    obtain ⟨_, rfl⟩ := ofRequest?_eq_ok_iff.mp made
    exact ⟨rfl, rfl⟩
  have active : ∀ name arguments,
      (name, arguments) ∈ (engine.addAll additions).activeScopes ↔
        IsLast name arguments (Addition.scopes additions) ∧
          name ∉ Addition.excluded additions :=
    fun name arguments => mem_activeScopes_addAll_iff fresh.1 fresh.2 additions
  have known : ∀ scope ∈ (engine.addAll additions).activeScopes,
      query.knows (scopeCall scope) := by
    rintro ⟨name, arguments⟩ scope_mem
    obtain ⟨isLast, excluded⟩ := (active name arguments).mp scope_mem
    exact allScopes name arguments isLast.mem excluded
  obtain ⟨built, built_eq, log_eq⟩ := builder_log_of_known known fun call call_mem =>
    allowed_of_mem_openingCalls made (Policy.neverStrips_iff.mp neverStrips) Call.isStrip_of_named
      rfl callbacksOnly call_mem
  refine ⟨built, (engine.addAll additions).activeScopes, built_eq, ?_, active, ?_, ?_⟩
  · apply ascending_activeScopes
    apply ascending_addAll_scopes
    simp [fresh.1, Ascending]
  · have pure_eq : query.recorded
        (if request.pairs.has Paging.pureName then [.withoutEagerLoading] else []) =
          if request.pairs.has Paging.pureName then [.withoutEagerLoading] else [] := by
      split <;> rfl
    rw [log_eq, openingCalls_addAll made, Query.recorded_append, pure_eq, closingCalls_eq,
      paramCalls]
    simp only [List.append_assoc]
  · intro param param_mem
    obtain ⟨pair, calls, admits, calls_eq⟩ :=
      exists_calls?_of_mem_params made config.likeOperator param_mem
    exact ⟨calls, calls_eq, fun field target_eq call call_mem =>
      admits.within target_eq calls_eq call_mem⟩

theorem addsConditions_books : Catalogue.Books.policy.registry.AddsConditions where
  custom := by
    intro token run isLast value secondary call call_mem
    have mem : (token, run) ∈
        [(Registry.token "cheap", Catalogue.Books.cheap),
          (Registry.token "by_author_role", Catalogue.Books.byAuthorRole)] := isLast.mem
    simp only [List.mem_cons, Prod.mk.injEq, List.not_mem_nil, or_false] at mem
    rcases mem with ⟨_, rfl⟩ | ⟨_, rfl⟩
    · simp only [Catalogue.Books.cheap] at call_mem
      split at call_mem
      · obtain rfl := List.mem_singleton.mp call_mem
        rfl
      · cases call_mem
    · obtain rfl := List.mem_singleton.mp call_mem
      rfl
  override := by
    intro key run isLast value secondary call call_mem
    have mem : (key, run) ∈
        [((Operator.anyOf, Registry.token "genre"), Catalogue.Books.genre)] := isLast.mem
    obtain ⟨_, rfl⟩ := Prod.mk.inj (List.mem_singleton.mp mem)
    obtain rfl := List.mem_singleton.mp call_mem
    rfl

/-- Hooks and callbacks of the listing of stored books make conditions and orderings only. -/
theorem callsOnly_books {allowed : Call → Prop}
    (allNamed : ∀ {call named}, Call.named? call = some named → allowed call) :
    Catalogue.Books.policy.CallsOnly allowed where
  prepare := by simp [Catalogue.Books.policy]
  defaultSorting := by
    intro call call_mem
    obtain rfl := List.mem_singleton.mp call_mem
    exact allNamed rfl
  custom := by
    intro token run isLast value secondary call call_mem
    obtain ⟨_, name_eq⟩ := Call.exists_named_of_isPredicate
      (addsConditions_books.custom isLast value secondary call call_mem)
    exact allNamed name_eq
  override := by
    intro key run isLast value secondary call call_mem
    obtain ⟨_, name_eq⟩ := Call.exists_named_of_isPredicate
      (addsConditions_books.override isLast value secondary call call_mem)
    exact allNamed name_eq

/-- A lean request for one book of a genre. -/
def leanRequest : Request :=
  ⟨some "where_id=1&where_genre=tech&limit=5&pure"⟩

/-- A callback, a smaller page, a scope that is added twice, and one that is left out. -/
def mixedAdditions : List Addition :=
  [.callback [.notIn "status" ["draft"]], .scope "published" [.bool false], .scope "missing" [],
    .withoutScope "missing", .maxLimit 3, .scope "published" []]

/-- The stored books, with one scope. -/
def scopedBooks : Query :=
  (Query.ofRows Catalogue.Books.stored).withScope "published" "published"

theorem builder_log_books :
    ∃ engine built, ofRequest? Catalogue.Books.policy leanRequest = .ok engine ∧
      (engine.addAll mixedAdditions).builder {} scopedBooks = .ok built ∧
      built.log =
        [.isIn "id" ["1"], .isIn "genre_code" ["TECH"], .orderBy "id" .ascending,
          .notIn "status" ["draft"], .withoutEagerLoading, .applyScope "published" [], .limit 3,
          .offset 0] := by
  have pairs_eq : leanRequest.pairs =
      [("where_id", "1"), ("where_genre", "tech"), ("limit", "5"), ("pure", "")] := by
    decide +kernel
  have made := ofRequest?_of_check Catalogue.Books.policy leanRequest rfl
  rw [pairs_eq] at made
  have added_eq : Addition.scopes mixedAdditions =
      [("published", [.bool false]), ("missing", []), ("published", [])] := rfl
  have excluded : Addition.excluded mixedAdditions = ["missing"] := rfl
  have callbacksOnly : ∀ calls ∈ Addition.callbacks mixedAdditions, ∀ call ∈ calls,
      call.isStrip = false := by
    simp [Addition.callbacks, mixedAdditions, Addition.callback?, Call.isStrip]
  have allScopes : ∀ name arguments, (name, arguments) ∈ Addition.scopes mixedAdditions →
      name ∉ Addition.excluded mixedAdditions → (scopedBooks.scopes.lookup name).isSome := by
    intro name arguments scope_mem noName
    rw [excluded, List.mem_singleton] at noName
    simp only [added_eq, List.mem_cons, Prod.mk.injEq, noName, false_and, List.not_mem_nil,
      or_false, false_or] at scope_mem
    rcases scope_mem with ⟨rfl, _⟩ | ⟨rfl, _⟩ <;> rfl
  obtain ⟨built, scopes, built_eq, ascending, active, log_eq, _⟩ :=
    builder_log made (Policy.neverStrips_iff.mpr (callsOnly_books Call.isStrip_of_named))
      callbacksOnly allScopes {}
  have published : scopes = [("published", [])] := by
    apply ascending.eq_of_mem_iff (List.pairwise_singleton ..)
    rintro ⟨name, arguments⟩
    rw [active, ← Bindings.last?_eq_some_iff, added_eq, excluded]
    by_cases name_eq : name = "published"
    · subst name_eq
      simp [Bindings.last?, eq_comm]
    · by_cases missing_eq : name = "missing" <;>
        simp [Bindings.last?, name_eq, Ne.symm name_eq, missing_eq, eq_comm]
  refine ⟨_, built, made, built_eq, log_eq.trans ?_⟩
  rw [published, pairs_eq]
  rfl

end Engine

end Listing
