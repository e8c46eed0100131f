import Listing.Proofs.Confluence

/-!
# Scopes that a query does not have

An application stops at the first scope, in ascending order of the names, that is to be applied and
that the query does not have.  What was called before stays: the query is left where a run that is
not stopped would have been just before that scope, and it lacks the page that the engine sets last
(`Engine.stopped_at_missing_scope`).  Excluding the scopes that the query does not have is as good
as never having registered them.
-/

namespace Listing

open Bindings (Ascending IsLast)
open LawfulSource (hasScope)

theorem Bindings.Ascending.lt_of_mem_right {β : Type} {before after : List (String × β)}
    {pair other : String × β} (ascending : Ascending (before ++ pair :: after))
    (other_mem : other ∈ after) : pair.1 < other.1 :=
  List.rel_of_pairwise_cons (List.pairwise_append.mp ascending).2.1 other_mem

namespace Addition

section

variable {Q Row : Type} [Source Q Row] [LawfulSource Q Row]

/-- Additions register a scope that the query does not have, and do not exclude it. -/
structure Misses (additions : List Addition) (query : Q) (name : String) : Prop where
  registered : ∃ arguments, (name, arguments) ∈ scopes additions
  included : name ∉ excluded additions
  undefined : hasScope query name = false

theorem misses_iff {additions : List Addition} {query : Q} {name : String} :
    Misses additions query name ↔
      (∃ arguments, Activates additions name arguments) ∧ hasScope query name = false := by
  have registered : (∃ arguments, (name, arguments) ∈ scopes additions) ↔
      ∃ arguments, IsLast name arguments (scopes additions) := by
    simp only [← Bindings.last?_eq_some_iff, ← Option.isSome_iff_exists, Bindings.last?_isSome_iff]
  constructor
  · rintro ⟨name_exists, included, undefined⟩
    rcases registered.mp name_exists with ⟨arguments, isLast⟩
    exact ⟨⟨arguments, isLast, included⟩, undefined⟩
  · rintro ⟨⟨arguments, isLast, included⟩, undefined⟩
    exact ⟨registered.mpr ⟨arguments, isLast⟩, included, undefined⟩

end

theorem activates_exclude_iff {additions : List Addition} {names : List String} {name : String}
    {arguments : List Json} :
    Activates (additions ++ names.map withoutScope) name arguments ↔
      Activates additions name arguments ∧ name ∉ names := by
  have scopes_eq : scopes (names.map withoutScope) = [] :=
    List.filterMap_eq_nil_iff.mpr (by simp [scope?])
  have excluded_eq : excluded (names.map withoutScope) = names := by
    rw [excluded, List.filterMap_map]
    exact List.filterMap_some
  rw [Activates, scopes, excluded, List.filterMap_append, List.filterMap_append, ← scopes,
    ← scopes, scopes_eq, List.append_nil, ← excluded, ← excluded, excluded_eq, List.mem_append,
    not_or, ← and_assoc, Activates]

theorem sameEffect_exclude (additions : List Addition) (names : List String) :
    SameEffect (additions ++ names.map withoutScope)
      (additions.filter fun addition => !names.any addition.registers) := by
  have allKeep : ∀ addition : Addition, (!names.any addition.registers) = false →
      addition.scope?.isSome := by
    intro addition dropped
    rcases List.any_eq_true.mp (by simpa using dropped) with ⟨name, _, registers_true⟩
    exact scope?_isSome_of_registers registers_true
  have callbacks_eq : callbacks (names.map withoutScope) = [] :=
    List.filterMap_eq_nil_iff.mpr (by simp [callback?])
  have maxLimit_eq : (names.map withoutScope).filterMap maxLimit? = [] :=
    List.filterMap_eq_nil_iff.mpr (by simp [maxLimit?])
  refine ⟨?_, ?_, ?_⟩
  · calc callbacks (additions ++ names.map withoutScope)
      _ = callbacks additions ++ callbacks (names.map withoutScope) := List.filterMap_append ..
      _ = callbacks additions := by rw [callbacks_eq, List.append_nil]
      _ = callbacks (additions.filter fun addition => !names.any addition.registers) :=
          (filterMap_filter_of_scope (fun _ _ => rfl) allKeep additions).symm
  · intro other arguments
    have kept : ∀ pair : String × List Json,
        (!names.any (scope pair.1 pair.2).registers) = true ↔ pair.1 ∉ names := by
      intro pair
      simpa [registers] using List.forall_mem_ne
    have same : other ∉ names → (IsLast other arguments (scopes additions) ↔
        IsLast other arguments ((scopes additions).filter fun pair =>
          !names.any (scope pair.1 pair.2).registers)) := by
      intro noOther
      rw [← Bindings.last?_eq_some_iff, ← Bindings.last?_eq_some_iff,
        Bindings.last?_filter fun pair pair_eq => (kept pair).mpr (pair_eq ▸ noOther)]
    rw [activates_exclude_iff, Activates, Activates, scopes_filter, excluded, excluded,
      filterMap_filter_of_scope (fun _ _ => rfl) allKeep]
    constructor
    · rintro ⟨⟨isLast, included⟩, noOther⟩
      exact ⟨(same noOther).mp isLast, included⟩
    · rintro ⟨isLast, included⟩
      have noOther : other ∉ names := (kept _).mp (List.mem_filter.mp isLast.mem).2
      exact ⟨⟨(same noOther).mpr isLast, included⟩, noOther⟩
  · rw [List.filterMap_append, maxLimit_eq, List.append_nil,
      filterMap_filter_of_scope (fun _ _ => rfl) allKeep]

end Addition

namespace Engine

variable {policy : Policy} {request : Request} {engine : Engine}

section

variable {Q Row : Type} [Source Q Row] [LawfulSource Q Row]

/-- If a scope is missing, then it stands among the scopes that are applied, and the query has all
of them that stand before it. -/
theorem exists_split_of_missingScope? {query : Q} {name : String}
    (missing_eq : engine.missingScope? query = some name) :
    ∃ earlier arguments later, engine.activeScopes = earlier ++ (name, arguments) :: later ∧
      (∀ scope ∈ earlier, hasScope query scope.1) ∧ hasScope query name = false := by
  rcases List.find?_eq_some_iff_append.mp missing_eq with
    ⟨undefined, names, others, split_eq, known⟩
  rcases List.map_eq_append_iff.mp split_eq with ⟨earlier, rest, active, rfl, rest_eq⟩
  rcases List.map_eq_cons_iff.mp rest_eq with ⟨⟨_, arguments⟩, later, rfl, rfl, rfl⟩
  refine ⟨earlier, arguments, later, active, ?_, by simpa using undefined⟩
  intro scope scope_mem
  simpa using known scope.1 (List.mem_map_of_mem scope_mem)

/-- The scopes that the query has before the first one that it does not have. -/
theorem takeWhile_hasScope {query : Q} {earlier later : List (String × List Json)} {name : String}
    {arguments : List Json} (known : ∀ scope ∈ earlier, hasScope query scope.1)
    (undefined : hasScope query name = false) :
    ((earlier ++ (name, arguments) :: later).takeWhile fun scope => hasScope query scope.1) =
      earlier := by
  rw [List.takeWhile_append_of_pos known, List.takeWhile_cons_of_neg (by simp [undefined]),
    List.append_nil]

/-- An engine misses the least of the scopes that its additions bring into effect and the query does
not have. -/
theorem missingScope?_addAll_eq_some_iff (made : ofRequest? policy request = .ok engine)
    {additions : List Addition} {query : Q} {name : String} :
    (engine.addAll additions).missingScope? query = some name ↔
      Addition.Misses additions query name ∧
        ∀ other, Addition.Misses additions query other → name ≤ other := by
  rcases fresh_of_ofRequest? made with ⟨_, _, scopes_eq, excluded⟩
  have misses : ∀ other, Addition.Misses additions query other ↔
      (∃ arguments, (other, arguments) ∈ (engine.addAll additions).activeScopes) ∧
        hasScope query other = false := by
    intro other
    rw [Addition.misses_iff]
    simp only [mem_activeScopes_addAll_iff scopes_eq excluded]
  have ascending : Ascending (engine.addAll additions).activeScopes :=
    ascending_activeScopes (ascending_addAll_scopes (by simp [scopes_eq, Ascending]) additions)
  have least : ∀ {found}, (engine.addAll additions).missingScope? query = some found →
      Addition.Misses additions query found ∧
        ∀ other, Addition.Misses additions query other → found ≤ other := by
    intro found found_eq
    rcases exists_split_of_missingScope? found_eq with
      ⟨earlier, arguments, later, split_eq, known, undefined⟩
    rw [split_eq] at ascending
    simp only [misses, split_eq, List.mem_append, List.mem_cons]
    refine ⟨⟨⟨arguments, .inr (.inl rfl)⟩, undefined⟩, ?_⟩
    rintro other ⟨⟨given, earlier_mem | name_eq | later_mem⟩, other_false⟩
    · simp [known _ earlier_mem] at other_false
    · rw [Prod.mk.injEq] at name_eq
      exact name_eq.1 ▸ String.le_refl _
    · exact String.not_lt.mp (String.lt_asymm (ascending.lt_of_mem_right later_mem))
  constructor
  · exact least
  · rintro ⟨nameMisses, min⟩
    cases missing_eq : (engine.addAll additions).missingScope? query with
    | none =>
        rcases Addition.misses_iff.mp nameMisses with ⟨⟨arguments, active⟩, undefined⟩
        rw [missingScope?_addAll_eq_none_iff made] at missing_eq
        simp [missing_eq name arguments active] at undefined
    | some found =>
        rcases least missing_eq with ⟨foundMisses, otherMin⟩
        rw [String.le_antisymm (otherMin name nameMisses) (min found foundMisses)]

theorem exists_misses_iff (made : ofRequest? policy request = .ok engine)
    {additions : List Addition} {query : Q} :
    (∃ name, Addition.Misses additions query name) ↔
      ∃ name, (engine.addAll additions).missingScope? query = some name := by
  constructor
  · rintro ⟨name, misses⟩
    rcases Addition.misses_iff.mp misses with ⟨⟨arguments, active⟩, undefined⟩
    rw [← Option.ne_none_iff_exists', ne_eq, missingScope?_addAll_eq_none_iff made]
    intro all
    simp [all name arguments active] at undefined
  · rintro ⟨name, missing_eq⟩
    exact ⟨name, ((missingScope?_addAll_eq_some_iff made).mp missing_eq).1⟩

/-- At the first scope that is missing an application has made the calls before the scopes and those
of the scopes with smaller names, in the order in which an application that is not stopped makes
them. -/
theorem apply_of_missing (made : ofRequest? policy request = .ok engine)
    {additions : List Addition} {config : Config} {query : Q} {name : String}
    (missing_eq : (engine.addAll additions).missingScope? query = some name) :
    let host := engine.addAll additions
    ∃ earlier arguments later,
      Ascending (earlier ++ (name, arguments) :: later) ∧
      (∀ scope, scope ∈ earlier ++ (name, arguments) :: later ↔
        Addition.Activates additions scope.1 scope.2) ∧
      (host.apply config query).query =
        Source.attemptAll query (host.openingCalls config ++ earlier.map scopeCall) ∧
      host.calls config =
        host.openingCalls config ++ earlier.map scopeCall ++ .applyScope name arguments ::
          (later.map scopeCall ++ host.closingCalls config) := by
  intro host
  rcases fresh_of_ofRequest? made with ⟨_, _, scopes_eq, excluded⟩
  rcases exists_split_of_missingScope? missing_eq with
    ⟨earlier, arguments, later, split_eq, known, undefined⟩
  refine ⟨earlier, arguments, later, ?_, ?_, ?_, ?_⟩
  · rw [← split_eq]
    exact ascending_activeScopes
      (ascending_addAll_scopes (by simp [scopes_eq, Ascending]) additions)
  · intro scope
    rw [← split_eq]
    exact mem_activeScopes_addAll_iff scopes_eq excluded additions
  · rw [apply_eq, missing_eq, split_eq, takeWhile_hasScope known undefined]
  · rw [calls, hostCalls, split_eq, List.map_append, List.map_cons]
    simp only [List.append_assoc, List.cons_append]
    rfl

end

/-- An application fails exactly if the host registers a scope, does not exclude it and the query
does not have it, and then for the least such name.  The query has then received all calls of the
stages before the scopes and those of the scopes with smaller names, as a run that is not stopped
makes them, and neither the page of the engine nor anything of that scope or of a later one; nothing
is executed.  If all such names are excluded, then the engine builds what it would build if they had
never been registered. -/
theorem stopped_at_missing_scope (engine_eq : ofRequest? policy request = .ok engine)
    (additions : List Addition) (config : Config) {Q Row : Type} [Source Q Row]
    [LawfulSource Q Row] (query : Q) :
    let host := engine.addAll additions
    let applied := host.apply config query
    ((∃ reason, applied.failure = some reason) ↔
        ∃ name, Addition.Misses additions query name) ∧
      (∀ reason, applied.failure = some reason ↔
        ∃ name, reason = .unknownScope name ∧ Addition.Misses additions query name ∧
          ∀ other, Addition.Misses additions query other → name ≤ other) ∧
      (applied.failure = none → applied.query = Source.attemptAll query (host.calls config)) ∧
      (∀ name, applied.failure = some (.unknownScope name) →
        (∃ earlier arguments later,
          Ascending (earlier ++ (name, arguments) :: later) ∧
          (∀ scope, scope ∈ earlier ++ (name, arguments) :: later ↔
            Addition.Activates additions scope.1 scope.2) ∧
          let made :=
            policy.prepare ++
              engine.params.flatMap (fun param => (param.calls? config.likeOperator).getD []) ++
              (if ∃ param ∈ engine.params, param.operator = .sort then []
                else policy.defaultSorting) ++
              (Addition.callbacks additions).flatten ++
              (if request.pairs.has Paging.pureName then [.withoutEagerLoading] else []) ++
              earlier.map scopeCall
          applied.query = Source.attemptAll query made ∧
            host.calls config =
              made ++ .applyScope name arguments ::
                (later.map scopeCall ++
                  ((host.limit config).toList.map .limit ++ [.offset host.offset]))) ∧
        host.builder config query = .error (.unknownScope name) ∧
        host.response config query = .stopped (.failed (.unknownScope name)) ∧
        ∀ (α : Type), (∀ convert : Row → α,
            host.responseAs config query convert = .stopped (.failed (.unknownScope name))) ∧
          ∀ transform : List Row → α,
            host.responseWith config query transform = .stopped (.failed (.unknownScope name))) ∧
      ∀ names : List String, (∀ name, Addition.Misses additions query name → name ∈ names) →
        ∃ built,
          (engine.addAll (additions ++ names.map .withoutScope)).builder config query = .ok built ∧
          (engine.addAll (additions.filter fun addition =>
            !names.any addition.registers)).builder config query = .ok built := by
  intro host applied
  have failure_eq : applied.failure = (host.missingScope? query).map .unknownScope :=
    apply_failure host config query
  have stopped : ∀ reason, applied.failure = some reason ↔
      ∃ name, reason = .unknownScope name ∧ host.missingScope? query = some name := by
    intro reason
    rw [failure_eq, Option.map_eq_some_iff]
    exact exists_congr fun name => and_comm.trans (and_congr_left fun _ => eq_comm)
  refine ⟨?_, ?_, ?_, ?_, ?_⟩
  · rw [exists_misses_iff engine_eq]
    simp only [stopped]
    exact ⟨fun ⟨_, name, _, missing_eq⟩ => ⟨name, missing_eq⟩, fun ⟨name, missing_eq⟩ =>
      ⟨_, name, rfl, missing_eq⟩⟩
  · intro reason
    rw [stopped]
    simp only [host, missingScope?_addAll_eq_some_iff engine_eq]
  · intro eq_none
    have none_missing : host.missingScope? query = none := by simpa [failure_eq] using eq_none
    exact congrArg Applied.query ((apply_eq host config query).trans (by rw [none_missing]))
  · intro name name_eq
    have missing_eq : host.missingScope? query = some name := by
      rcases (stopped _).mp name_eq with ⟨other, other_eq, missing_eq⟩
      rwa [Failure.unknownScope.inj other_eq]
    have failed : host.builder config query = .error (.unknownScope name) := by
      rw [builder_eq, missing_eq]
    refine ⟨?_, failed, response_of_builder_error failed, fun α => ⟨fun convert => ?_, ?_⟩⟩
    · have opening_eq := openingCalls_addAll engine_eq additions config
      rw [paramCalls] at opening_eq
      rw [← closingCalls_eq, ← opening_eq]
      exact apply_of_missing engine_eq missing_eq
    · exact responseWith_of_builder_error failed (List.map convert)
    · exact responseWith_of_builder_error failed
  · intro names allNames
    have none_missing : (engine.addAll (additions ++ names.map .withoutScope)).missingScope? query =
        none := by
      rw [missingScope?_addAll_eq_none_iff engine_eq]
      intro name arguments active
      rcases Addition.activates_exclude_iff.mp active with ⟨registered, included⟩
      cases defined : hasScope query name with
      | true => rfl
      | false =>
          have misses := Addition.misses_iff.mpr ⟨⟨arguments, registered⟩, defined⟩
          exact absurd (allNames name misses) included
    refine ⟨_, builder_eq_ok_iff.mpr ⟨none_missing, rfl⟩, ?_⟩
    rw [← builder_addAll_congr engine_eq (Addition.sameEffect_exclude additions names)]
    exact builder_eq_ok_iff.mpr ⟨none_missing, rfl⟩

/-- A callback and four scopes: one that the stored books have, two that they do not have, and one
that is left out. -/
def strayAdditions : List Addition :=
  [.scope "zoo" [], .scope "status" [.string "draft"], .callback [.notIn "status" ["draft"]],
    .scope "published" [], .scope "absent" [], .withoutScope "absent"]

theorem stopped_at_missing_scope_books :
    ∃ engine, ofRequest? Catalogue.Books.policy leanRequest = .ok engine ∧
      ((engine.addAll strayAdditions).apply {} scopedBooks).failure =
        some (.unknownScope "status") ∧
      ((engine.addAll strayAdditions).apply {} scopedBooks).query.log =
        [.isIn "id" ["1"], .isIn "genre_code" ["TECH"], .orderBy "id" .ascending,
          .notIn "status" ["draft"], .withoutEagerLoading, .applyScope "published" []] ∧
      ∃ built,
        (engine.addAll (strayAdditions ++ [.withoutScope "zoo", .withoutScope "status"])).builder
        {} scopedBooks = .ok built := by
  have pairs_eq : leanRequest.pairs =
      [("where_id", "1"), ("where_genre", "tech"), ("limit", "5"), ("pure", "")] := by
    decide +kernel
  have made := ofRequest?_of_check Catalogue.Books.policy leanRequest rfl
  rw [pairs_eq] at made
  have misses : ∀ name, Addition.Misses strayAdditions scopedBooks name ↔
      name = "zoo" ∨ name = "status" := by
    have scopes_eq : Addition.scopes strayAdditions =
        [("zoo", []), ("status", [.string "draft"]), ("published", []), ("absent", [])] := rfl
    have excluded : Addition.excluded strayAdditions = ["absent"] := rfl
    intro name
    constructor
    · rintro ⟨⟨arguments, name_mem⟩, included, undefined⟩
      rw [excluded, List.mem_singleton] at included
      simp only [scopes_eq, List.mem_cons, Prod.mk.injEq, List.not_mem_nil, or_false] at name_mem
      rcases name_mem with ⟨rfl, _⟩ | ⟨rfl, _⟩ | ⟨rfl, _⟩ | ⟨rfl, _⟩
      · exact .inl rfl
      · exact .inr rfl
      · cases undefined
      · exact absurd rfl included
    · rintro (rfl | rfl)
      · exact ⟨⟨[], by simp [scopes_eq]⟩, by simp [excluded], rfl⟩
      · exact ⟨⟨[.string "draft"], by simp [scopes_eq]⟩, by simp [excluded], rfl⟩
  have least : ∀ other, Addition.Misses strayAdditions scopedBooks other → "status" ≤ other := by
    intro other otherMisses
    rcases (misses other).mp otherMisses with rfl | rfl <;> decide
  obtain ⟨_, allFailure, _, _, allExclude⟩ :=
    stopped_at_missing_scope made strayAdditions {} scopedBooks
  obtain ⟨built, built_eq, _⟩ := allExclude ["zoo", "status"] (by simp [misses])
  refine ⟨_, made, ?_, rfl, built, built_eq⟩
  exact (allFailure _).mpr ⟨"status", rfl, (misses _).mpr (.inr rfl), least⟩

end Engine

end Listing
