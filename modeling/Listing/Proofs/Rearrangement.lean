import Listing.Proofs.Memory.Layout
import Listing.Proofs.Paging.Cap

/-!
# Rearranged requests

The pairs of a request can stand in any order, as long as those that ask for an order of the rows,
for a limit and for an offset come in the same order among themselves (`Pairs.Rearranged`).  Each
pair is kept or dropped by itself, so that the same parameters are kept; what they call for narrows
the listing in another order, which does not matter, and lays it out in the same way.  The page of a
listing of stored rows is therefore the same (`Engine.response_rearranged`).  Callbacks have to keep
to conditions for this, since the order of anything else that they call for would matter.
-/

namespace Listing

/-! ## Pairs -/

/-- A key whose pairs stand in the same order in two lists has the same last value in both. -/
theorem Bindings.last?_eq_of_filter_eq {α β : Type} [DecidableEq α] {key : α}
    {pairs others : List (α × β)}
    (filter_eq : pairs.filter (·.1 == key) = others.filter (·.1 == key)) :
    last? key pairs = last? key others := by
  have allKeep : ∀ pair : α × β, pair.1 = key → (pair.1 == key) = true :=
    fun _ pair_eq => beq_iff_eq.mpr pair_eq
  rw [← last?_filter allKeep pairs, filter_eq, last?_filter allKeep others]

namespace Pairs

/-- Whether a pair asks for an order of the rows: its name starts with the keyword for that. -/
def isSorting (pair : String × String) : Bool :=
  "sort_".toList.isPrefixOf pair.1.toList

/-- Two lists have the same pairs, and those that ask for an order of the rows, those for the limit
and those for the offset are in the same order among themselves.  Marks for lean responses may stand
anywhere. -/
structure Rearranged (pairs others : Pairs) : Prop where
  perm : pairs.Perm others
  sorting : pairs.filter isSorting = others.filter isSorting
  limit : pairs.filter (·.1 == Paging.limitName) = others.filter (·.1 == Paging.limitName)
  offset : pairs.filter (·.1 == Paging.offsetName) = others.filter (·.1 == Paging.offsetName)

/-- Whether the place of a pair matters: it asks for an order of the rows, for a limit, for an
offset or for a lean response. -/
def keepsPlace (pair : String × String) : Bool :=
  isSorting pair || [Paging.limitName, Paging.offsetName, Paging.pureName].contains pair.1

variable {pairs others : Pairs}

/-- Pairs are rearranged in this sense if those whose place matters stay in the same order, taken
all together. -/
theorem Rearranged.of_keepsPlace (perm : pairs.Perm others)
    (places_eq : pairs.filter keepsPlace = others.filter keepsPlace) : Rearranged pairs others := by
  have filters : ∀ {kind : String × String → Bool}, (∀ pair, kind pair → keepsPlace pair) →
      pairs.filter kind = others.filter kind := by
    intro kind allKind
    have allAgain : ∀ pairs : Pairs, (pairs.filter keepsPlace).filter kind = pairs.filter kind := by
      intro pairs
      rw [List.filter_filter]
      apply List.filter_congr
      intro pair _
      cases kind_eq : kind pair with
      | true => exact allKind pair kind_eq
      | false => rfl
    rw [← allAgain pairs, places_eq, allAgain others]
  constructor
  · exact perm
  · apply filters
    intro pair sorting
    simp [keepsPlace, sorting]
  · apply filters
    intro pair name
    simp [keepsPlace, beq_iff_eq.mp name]
  · apply filters
    intro pair name
    simp [keepsPlace, beq_iff_eq.mp name]

theorem Rearranged.paging_limit (rearranged : Rearranged pairs others) :
    (Paging.ofPairs pairs).limit = (Paging.ofPairs others).limit := by
  simp only [Paging.ofPairs, input?, Bindings.last?_eq_of_filter_eq rearranged.limit]

theorem Rearranged.paging_offset (rearranged : Rearranged pairs others) :
    (Paging.ofPairs pairs).offset = (Paging.ofPairs others).offset := by
  simp only [Paging.ofPairs, input?, Bindings.last?_eq_of_filter_eq rearranged.offset]

end Pairs

/-! ## Parameters -/

/-- On a field every operator but that for an order of the rows calls for conditions. -/
theorem Param.isPredicate_of_fieldCalls? {operator : Operator} (operator_ne : operator ≠ .sort)
    {matching : LikeOperator} {field : String} {secondary : Option String} {value : Value}
    {calls : List Call}
    (calls_eq : fieldCalls? operator matching field secondary value = some calls)
    {call : Call} (call_mem : call ∈ calls) : call.isPredicate := by
  cases fieldCalls?_eq_some_iff.mp calls_eq with
  | sort => exact absurd rfl operator_ne
  | hasAll related items =>
      rcases List.mem_map.mp call_mem with ⟨item, _, rfl⟩
      rfl
  | _ =>
      rcases List.mem_singleton.mp call_mem with rfl
      rfl

namespace Policy

variable {policy : Policy} {pair : String × String} {param : Param}

/-- A parameter of the sort operator comes from a pair that asks for an order of the rows. -/
theorem Admits.isSorting (admits : policy.Admits pair param) (isSort : param.isSort) :
    Pairs.isSorting pair := by
  cases admits with
  | custom | override => cases isSort
  | @listed _ _ key _ parsed =>
      have operator_eq : key.operator = .sort := beq_iff_eq.mp isSort
      obtain ⟨rest, name_eq⟩ := Key.exists_of_parse? parsed
      rw [operator_eq] at name_eq
      exact List.isPrefixOf_iff_prefix.mpr ⟨rest, name_eq.symm⟩

/-- If callbacks add conditions only, then so does every admitted parameter that is none of the sort
operator. -/
theorem Admits.isPredicate (admits : policy.Admits pair param)
    (addsConditions : policy.registry.AddsConditions) (sort_false : param.isSort = false)
    {matching : LikeOperator} {calls : List Call} (calls_eq : param.calls? matching = some calls)
    {call : Call} (call_mem : call ∈ calls) : call.isPredicate := by
  obtain ⟨value, _, run_eq⟩ := Option.bind_eq_some_iff.mp calls_eq
  cases admits with
  | custom _ _ _ registered =>
      obtain rfl := Option.some.inj run_eq
      exact addsConditions.custom registered _ _ call call_mem
  | override _ _ _ registered =>
      obtain rfl := Option.some.inj run_eq
      exact addsConditions.override registered _ _ call call_mem
  | @listed _ _ key =>
      have operator_ne : key.operator ≠ .sort := by simpa [Param.isSort] using sort_false
      exact Param.isPredicate_of_fieldCalls? operator_ne run_eq call_mem

/-- The parameters of the sort operator are those that are kept of the pairs that ask for an order
of the rows. -/
theorem filter_isSort_keepAll (policy : Policy) (pairs : Pairs) :
    (policy.keepAll pairs).filter (·.isSort) =
      (policy.keepAll (pairs.filter Pairs.isSorting)).filter (·.isSort) := by
  rw [keepAll, keepAll, List.filter_filterMap, List.filterMap_filter, List.filter_filterMap]
  apply List.filterMap_congr
  intro pair _
  cases sorting_eq : Pairs.isSorting pair with
  | true => rfl
  | false =>
      rw [if_neg Bool.false_ne_true, Option.filter_none, Option.filter_eq_none_iff]
      intro param keep_eq isSort
      have admits := (keep?_eq_some_iff_admits policy pair param).mp keep_eq
      rw [admits.isSorting isSort] at sorting_eq
      cases sorting_eq

end Policy

namespace Engine

variable {policy : Policy} {request otherRequest : Request} {engine otherEngine : Engine}

/-- The calls of the other parameters choose neither a page nor an order. -/
theorem filter_isPagination_paramCalls (made : ofRequest? policy request = .ok engine)
    (addsConditions : policy.registry.AddsConditions) (config : Config) :
    (engine.paramCalls config).filter Call.isPagination =
      ((engine.params.filter (·.isSort)).flatMap fun param =>
        (param.calls? config.likeOperator).getD []).filter Call.isPagination := by
  symm
  apply filter_flatMap_filter
  intro param param_mem sort_false
  obtain ⟨pair, calls, admits, calls_eq⟩ :=
    exists_calls?_of_mem_params made config.likeOperator param_mem
  rw [calls_eq, Option.getD_some]
  apply List.filter_eq_nil_iff.mpr
  intro call call_mem pagination
  have predicate := admits.isPredicate addsConditions sort_false calls_eq call_mem
  cases call with
  | orderBy | limit | offset | stripPagination => cases predicate
  | _ => cases pagination

section

variable (made : ofRequest? policy request = .ok engine)
  (otherMade : ofRequest? policy otherRequest = .ok otherEngine)

include made otherMade

/-- The same parameters are kept of the same pairs, in the order of the pairs. -/
theorem params_perm (pairs_perm : request.pairs.Perm otherRequest.pairs) :
    engine.params.Perm otherEngine.params := by
  obtain ⟨_, rfl⟩ := ofRequest?_eq_ok_iff.mp made
  obtain ⟨_, rfl⟩ := ofRequest?_eq_ok_iff.mp otherMade
  exact pairs_perm.filterMap policy.keep?

/-- The parameters of the sort operator are in the same order if the pairs that ask for one are. -/
theorem filter_isSort_params (sorting_eq : request.pairs.filter Pairs.isSorting =
      otherRequest.pairs.filter Pairs.isSorting) :
    engine.params.filter (·.isSort) = otherEngine.params.filter (·.isSort) := by
  obtain ⟨_, rfl⟩ := ofRequest?_eq_ok_iff.mp made
  obtain ⟨_, rfl⟩ := ofRequest?_eq_ok_iff.mp otherMade
  rw [policy.filter_isSort_keepAll, sorting_eq, ← policy.filter_isSort_keepAll]

/-- Rearranged requests lead to the same calls before the scopes in some order, those that choose a
page or an order in the same order. -/
theorem openingCalls_rearranged (addsConditions : policy.registry.AddsConditions)
    (rearranged : request.pairs.Rearranged otherRequest.pairs) (additions : List Addition)
    (config : Config) :
    ((engine.addAll additions).openingCalls config).Perm
        ((otherEngine.addAll additions).openingCalls config) ∧
      ((engine.addAll additions).openingCalls config).filter Call.isPagination =
        ((otherEngine.addAll additions).openingCalls config).filter Call.isPagination := by
  have params_fact := params_perm made otherMade rearranged.perm
  have sorted : (∃ param ∈ engine.params, param.operator = .sort) ↔
      ∃ param ∈ otherEngine.params, param.operator = .sort :=
    exists_congr fun param => and_congr_left fun _ => params_fact.mem_iff
  have pure_eq : request.pairs.has Paging.pureName = otherRequest.pairs.has Paging.pureName :=
    rearranged.perm.any_eq
  have layout_eq : (engine.paramCalls config).filter Call.isPagination =
      (otherEngine.paramCalls config).filter Call.isPagination := by
    rw [filter_isPagination_paramCalls made addsConditions,
      filter_isPagination_paramCalls otherMade addsConditions,
      filter_isSort_params made otherMade rearranged.sorting]
  rw [openingCalls_addAll made, openingCalls_addAll otherMade]
  simp only [sorted, pure_eq]
  constructor
  · have calls_perm : (engine.paramCalls config).Perm (otherEngine.paramCalls config) :=
      params_fact.flatMap_right _
    exact (((calls_perm.append_left _).append_right _).append_right _).append_right _
  · simp only [List.filter_append, layout_eq]

theorem calls_rearranged (addsConditions : policy.registry.AddsConditions)
    (rearranged : request.pairs.Rearranged otherRequest.pairs) (additions : List Addition)
    (config : Config) :
    ((engine.addAll additions).calls config).Perm ((otherEngine.addAll additions).calls config) ∧
      ((engine.addAll additions).calls config).filter Call.isPagination =
        ((otherEngine.addAll additions).calls config).filter Call.isPagination := by
  obtain ⟨perm, layout_eq⟩ :=
    openingCalls_rearranged made otherMade addsConditions rearranged additions config
  have scopes_eq : (engine.addAll additions).activeScopes =
      (otherEngine.addAll additions).activeScopes :=
    activeScopes_addAll_congr made otherMade rfl
  have closing_eq := closingCalls_addAll_of_paging made otherMade rearranged.paging_limit
    rearranged.paging_offset additions config
  rw [calls, calls, hostCalls, hostCalls, scopes_eq, closing_eq]
  constructor
  · exact (perm.append_right _).append_right _
  · simp only [List.filter_append, layout_eq]

end

/-- Under a policy whose callbacks add conditions only, a rearranged request gets the same answer
from stored rows: the same rows in the same order with the same extent, or the same failure.  It is
a page if the query has all scopes that are applied. -/
theorem response_rearranged (made : ofRequest? policy request = .ok engine)
    (addsConditions : policy.registry.AddsConditions)
    (rearranged : request.pairs.Rearranged otherRequest.pairs) (additions : List Addition)
    (config : Config) (query : Memory.Query) :
    ∃ otherEngine, ofRequest? policy otherRequest = .ok otherEngine ∧
      (engine.addAll additions).response config query =
        (otherEngine.addAll additions).response config query ∧
      ((∀ name arguments, Addition.Activates additions name arguments →
          (query.scopes.lookup name).isSome) →
        ∃ page, (engine.addAll additions).response config query = .done page) := by
  have otherMade := ofRequest?_of_check policy otherRequest (ofRequest?_eq_ok_iff.mp made).1
  refine ⟨_, otherMade, ?_, ?_⟩
  · have scopes_eq := activeScopes_addAll_congr made otherMade (rfl : additions.filter _ = _)
    obtain ⟨perm, layout_eq⟩ :=
      calls_rearranged made otherMade addsConditions rearranged additions config
    rw [response_eq, response_eq, missingScope?_congr scopes_eq,
      query.compile_attemptAll_congr (perm.filter _) layout_eq]
  · intro known
    have eq_none : (engine.addAll additions).missingScope? query = none :=
      (missingScope?_addAll_eq_none_iff made).mpr known
    rw [response_eq, eq_none, Memory.Query.compile_eq]
    exact ⟨_, rfl⟩

/-- A request for the last of the published books on a subject, by title. -/
def lastTitleRequest : Request :=
  ⟨some "where_status=published&sort_title=desc&limit=7&search_title=Rust&limit=1&where_genre=tech"⟩

/-- The same request with its conditions in other places. -/
def lastTitleRearranged : Request :=
  ⟨some "where_genre=tech&sort_title=desc&search_title=Rust&limit=7&limit=1&where_status=published"⟩

theorem response_rearranged_books :
    ∃ engine otherEngine page, ofRequest? Catalogue.Books.policy lastTitleRequest = .ok engine ∧
      ofRequest? Catalogue.Books.policy lastTitleRearranged = .ok otherEngine ∧
      (engine.addAll [.scope "published" []]).response {} scopedBooks = .done page ∧
      (otherEngine.addAll [.scope "published" []]).response {} scopedBooks = .done page ∧
      page.extent = ⟨some 1, 0, 2⟩ ∧
      page.data.map (·.field? "title") = [some (.string "Rust in Action")] := by
  have pairs_eq : lastTitleRequest.pairs = [("where_status", "published"), ("sort_title", "desc"),
      ("limit", "7"), ("search_title", "Rust"), ("limit", "1"), ("where_genre", "tech")] := by
    decide +kernel
  have otherMade : lastTitleRearranged.pairs = [("where_genre", "tech"), ("sort_title", "desc"),
      ("search_title", "Rust"), ("limit", "7"), ("limit", "1"), ("where_status", "published")] := by
    decide +kernel
  have rearranged : lastTitleRequest.pairs.Rearranged lastTitleRearranged.pairs := by
    rw [pairs_eq, otherMade]
    apply Pairs.Rearranged.of_keepsPlace
    · decide
    · decide +kernel
  have made := ofRequest?_of_check Catalogue.Books.policy lastTitleRequest rfl
  rw [pairs_eq] at made
  obtain ⟨otherEngine, otherEngine_eq, response_eq, known⟩ := response_rearranged made
    addsConditions_books rearranged [.scope "published" []] {} scopedBooks
  have allScopes : ∀ name arguments, Addition.Activates [.scope "published" []] name arguments →
      (scopedBooks.scopes.lookup name).isSome := by
    rintro name arguments ⟨isLast, _⟩
    obtain ⟨rfl, _⟩ := Prod.mk.inj (List.mem_singleton.mp isLast.mem)
    rfl
  obtain ⟨page, page_eq⟩ := known allScopes
  have extent_eq : page.extent = ⟨some 1, 0, 2⟩ := by
    cases page_eq
    decide +kernel
  have titles_eq : page.data.map (·.field? "title") = [some (.string "Rust in Action")] := by
    cases page_eq
    rfl
  exact ⟨_, otherEngine, page, made, otherEngine_eq, page_eq, response_eq.symm.trans page_eq,
    extent_eq, titles_eq⟩

end Engine

end Listing
