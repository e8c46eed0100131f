import Listing.Proofs.Memory.CallLog
import Listing.Proofs.Memory.Page
import Listing.Proofs.Paging.Numeral
import Listing.Proofs.Sql.PageAgreement

/-!
# The largest page

Where a largest page applies, no request gets a larger one, however it spells its limit and whatever
hooks, callbacks and scopes do to the page before (`Engine.page_capped`).  Where none applies, the
engine passes on the limit that the request asks for, and sets none if it asks for none.
-/

namespace Listing

namespace Addition

/-- The largest page that is set. -/
def maxLimit? : Addition → Option Int
  | maxLimit rows => some rows
  | _ => none

end Addition

/-- The largest page that applies under a policy: what the host set last, else what the policy
says, else the setting. -/
def Policy.largestPage (policy : Policy) (additions : List Addition) (config : Config) : Int :=
  ((additions.filterMap Addition.maxLimit?).getLast?.or policy.maxLimit).getD
    config.defaultMaxLimit

namespace Engine

/-! ## The limit of an engine -/

/-- The largest page that the host set last is the one that an engine holds. -/
theorem addAll_maxLimit {engine : Engine} (fresh : engine.maxLimit = none)
    (additions : List Addition) :
    (engine.addAll additions).maxLimit =
      (additions.filterMap Addition.maxLimit?).getLast? := by
  induction additions using List.reverseRecOn with
  | nil => exact fresh
  | append_singleton additions addition ih =>
      rw [addAll_concat, List.filterMap_append]
      cases addition with
      | maxLimit rows => exact List.getLast?_concat.symm
      | _ =>
          rw [List.filterMap_cons_none rfl, List.filterMap_nil, List.append_nil]
          exact ih

/-- The largest page of an engine is what the host set last, else that of the policy, else the
setting. -/
theorem effectiveMax_addAll {policy : Policy} {request : Request} {engine : Engine}
    (made : ofRequest? policy request = .ok engine) (additions : List Addition)
    (config : Config) :
    (engine.addAll additions).effectiveMax config = policy.largestPage additions config := by
  have policy_eq := (addAll_origin engine additions).1
  obtain ⟨_, rfl⟩ := ofRequest?_eq_ok_iff.mp made
  rw [effectiveMax, Policy.largestPage, addAll_maxLimit rfl, policy_eq]

/-- The limit of an engine with a largest page is the requested one up to it. -/
theorem limit_of_pos {engine : Engine} {config : Config}
    (largest : 0 < engine.effectiveMax config) :
    engine.limit config =
      some (min (engine.paging.limit.getD (engine.effectiveMax config).toNat)
        (engine.effectiveMax config).toNat) := by
  rw [limit, if_neg (Int.not_le.mpr largest)]
  cases engine.paging.limit <;> simp

/-- The limit of an engine without a largest page is the requested one. -/
theorem limit_of_nonpos {engine : Engine} {config : Config}
    (largest : engine.effectiveMax config ≤ 0) :
    engine.limit config = engine.paging.limit :=
  if_pos largest

/-- A requested limit within the largest page, if there is one, is the limit of the engine. -/
theorem limit_of_within {engine : Engine} {config : Config} {rows : Nat}
    (asked : engine.paging.limit = some rows)
    (within : engine.effectiveMax config ≤ 0 ∨ (rows : Int) ≤ engine.effectiveMax config) :
    engine.limit config = some rows := by
  rcases Int.lt_or_le 0 (engine.effectiveMax config) with capped | uncapped
  · have le : rows ≤ (engine.effectiveMax config).toNat := by omega
    rw [limit_of_pos capped, asked, Option.getD_some, Nat.min_eq_left le]
  · rw [limit_of_nonpos uncapped, asked]

theorem paging_addAll {policy : Policy} {request : Request} {engine : Engine}
    (made : ofRequest? policy request = .ok engine) (additions : List Addition) :
    (engine.addAll additions).paging = .ofPairs request.pairs := by
  rw [(addAll_origin engine additions).2.2]
  obtain ⟨_, rfl⟩ := ofRequest?_eq_ok_iff.mp made
  rfl

section

variable {policy : Policy} {request otherRequest : Request} {engine otherEngine : Engine}

/-- Engines with the same additions have the same limit if their requests ask for the same one. -/
theorem limit_addAll_of_paging (made : ofRequest? policy request = .ok engine)
    (otherMade : ofRequest? policy otherRequest = .ok otherEngine)
    (limit_eq : (Paging.ofPairs request.pairs).limit = (Paging.ofPairs otherRequest.pairs).limit)
    (additions : List Addition) (config : Config) :
    (engine.addAll additions).limit config = (otherEngine.addAll additions).limit config := by
  rw [limit, limit, effectiveMax_addAll made, effectiveMax_addAll otherMade, paging_addAll made,
    paging_addAll otherMade, limit_eq]

theorem offset_addAll_of_paging (made : ofRequest? policy request = .ok engine)
    (otherMade : ofRequest? policy otherRequest = .ok otherEngine)
    (offset_eq : (Paging.ofPairs request.pairs).offset = (Paging.ofPairs otherRequest.pairs).offset)
    (additions : List Addition) :
    (engine.addAll additions).offset = (otherEngine.addAll additions).offset := by
  rw [offset, offset, paging_addAll made, paging_addAll otherMade, offset_eq]

theorem closingCalls_addAll_of_paging (made : ofRequest? policy request = .ok engine)
    (otherMade : ofRequest? policy otherRequest = .ok otherEngine)
    (limit_eq : (Paging.ofPairs request.pairs).limit = (Paging.ofPairs otherRequest.pairs).limit)
    (offset_eq : (Paging.ofPairs request.pairs).offset = (Paging.ofPairs otherRequest.pairs).offset)
    (additions : List Addition) (config : Config) :
    (engine.addAll additions).closingCalls config =
      (otherEngine.addAll additions).closingCalls config := by
  rw [closingCalls_eq, closingCalls_eq, limit_addAll_of_paging made otherMade limit_eq,
    offset_addAll_of_paging made otherMade offset_eq]

end

/-! ## The page of a query -/

section

variable {engine : Engine} {config : Config} {rows : Nat}

theorem reported_of_limit {Q Row : Type} [Source Q Row] [LawfulSource Q Row]
    (limit_eq : engine.limit config = some rows) {query built : Q}
    (built_eq : engine.builder config query = .ok built) :
    (Source.pagination built).1 = some rows := by
  rw [pagination_of_builder built_eq, limit_eq, Option.some_or]

/-- The selection of a built query has the limit of the engine, with an offset as without one. -/
theorem selected_of_limit (limit_eq : engine.limit config = some rows) {query built : Sql.Query}
    (built_eq : engine.builder config query = .ok built) : built.select.limit = some rows := by
  obtain ⟨_, rfl⟩ := builder_eq_ok_iff.mp built_eq
  rw [attemptAll_calls, closingCalls, limit_eq]
  have set_ne : ((engine.hosted config query).setLimit rows).limit ≠ none :=
    Option.some_ne_none rows
  calc (((engine.hosted config query).setLimit rows).setOffset engine.offset).select.limit
    _ = ((engine.hosted config query).setLimit rows).select.limit := by
        rw [Sql.Query.select_limit_setOffset, if_neg fun unset => set_ne unset.2]
    _ = some rows := rfl

/-- A listing of stored rows has at most as many rows as the limit of the engine. -/
theorem exists_page_of_limit (limit_eq : engine.limit config = some rows)
    {query built : Memory.Query} (built_eq : engine.builder config query = .ok built) :
    ∃ page, (engine.response config query).outcome = .ok page ∧ page.data.length ≤ rows := by
  rw [response_of_builder built_eq, Memory.Query.compile_eq]
  refine ⟨_, rfl, ?_⟩
  rw [List.length_map]
  exact Memory.Query.length_evaluate_le (reported_of_limit limit_eq built_eq)

end

/-- A built query reports the limit that is asked for, or the one that the host left if none is. -/
def Passes {Q Row : Type} [Source Q Row] (engine : Engine) (config : Config)
    (asked : Nat → Prop) (query built : Q) : Prop :=
  (∀ rows, asked rows → (Source.pagination built).1 = some rows) ∧
    ((∀ rows, ¬asked rows) →
      (Source.pagination built).1 = (Source.pagination (engine.hosted config query)).1)

section

variable {policy : Policy} {request : Request} {engine : Engine}

/-- Without a largest page the limit that a request asks for is passed on. -/
theorem passes_of_nonpos {Q Row : Type} [Source Q Row] [LawfulSource Q Row]
    (made : ofRequest? policy request = .ok engine) {additions : List Addition}
    {config : Config} (largest : policy.largestPage additions config ≤ 0) {query built : Q}
    (built_eq : (engine.addAll additions).builder config query = .ok built) :
    (engine.addAll additions).Passes config request.pairs.AsksLimit query built := by
  have limit_eq : (engine.addAll additions).limit config =
      (Paging.ofPairs request.pairs).limit := by
    rw [← effectiveMax_addAll made] at largest
    rw [limit_of_nonpos largest, paging_addAll made]
  rw [Passes, pagination_of_builder built_eq, limit_eq]
  constructor
  · intro rows asks
    rw [Paging.limit_ofPairs_eq_some_iff.mpr asks, Option.some_or]
  · intro never
    rw [Paging.limit_ofPairs_eq_none_iff.mpr never, Option.none_or]

/-- The limit of an engine with a largest page lies between one and that page.  It is the smaller of
the page and the limit that the request asks for, or the page itself if it asks for none. -/
theorem exists_limit_of_pos (made : ofRequest? policy request = .ok engine)
    {additions : List Addition} {config : Config}
    (largest_lt : 0 < policy.largestPage additions config) :
    ∃ rows : Nat, (engine.addAll additions).limit config = some rows ∧ 0 < rows ∧
      (rows : Int) ≤ policy.largestPage additions config ∧
      (∀ wanted : Nat, request.pairs.AsksLimit wanted →
        (rows : Int) = min (wanted : Int) (policy.largestPage additions config)) ∧
      ((∀ wanted, ¬request.pairs.AsksLimit wanted) →
        (rows : Int) = policy.largestPage additions config) := by
  rw [← effectiveMax_addAll made] at largest_lt ⊢
  refine ⟨_, limit_of_pos largest_lt, ?_⟩
  rw [paging_addAll made]
  generalize (engine.addAll additions).effectiveMax config = largest at largest_lt
  cases limit_eq : (Paging.ofPairs request.pairs).limit with
  | none =>
      have never := Paging.limit_ofPairs_eq_none_iff.mp limit_eq
      refine ⟨?_, ?_, fun wanted asks => absurd asks (never wanted), fun _ => ?_⟩
      all_goals simp only [Option.getD_none, Nat.min_self]
      all_goals omega
  | some wanted =>
      have asks := Paging.limit_ofPairs_eq_some_iff.mp limit_eq
      have positive : 0 < wanted := asks.choose_spec.2.2
      refine ⟨?_, ?_, fun other otherAsksLimit => ?_, fun never => absurd asks (never wanted)⟩
      · simp only [Option.getD_some]
        omega
      · simp only [Option.getD_some]
        omega
      · obtain rfl : wanted = other :=
          Option.some.inj
            (limit_eq.symm.trans (Paging.limit_ofPairs_eq_some_iff.mpr otherAsksLimit))
        simp only [Option.getD_some]
        omega

/-- Where a largest page applies, every built query has a limit of at least one and at most that
page, the smaller of it and the limit that the request asks for.  A query on a table reports it and
has it in its selection, and a listing of stored rows has at most as many rows.  Where none applies,
the engine sets a limit exactly if the request asks for it. -/
theorem page_capped (made : ofRequest? policy request = .ok engine)
    (additions : List Addition) (config : Config) :
    let host := engine.addAll additions
    let largest := policy.largestPage additions config
    (0 < largest →
      ∃ rows : Nat, 0 < rows ∧ (rows : Int) ≤ largest ∧
        (∀ wanted : Nat, request.pairs.AsksLimit wanted →
          (rows : Int) = min (wanted : Int) largest) ∧
        ((∀ wanted, ¬request.pairs.AsksLimit wanted) → (rows : Int) = largest) ∧
        (∀ query built : Sql.Query, host.builder config query = .ok built →
          (Source.pagination built).1 = some rows ∧ built.select.limit = some rows) ∧
        ∀ query built : Memory.Query, host.builder config query = .ok built →
          (Source.pagination built).1 = some rows ∧
            ∃ page, (host.response config query).outcome = .ok page ∧ page.data.length ≤ rows) ∧
    (largest ≤ 0 →
      (∀ rows, .limit rows ∈ host.closingCalls config ↔ request.pairs.AsksLimit rows) ∧
      (∀ query built : Sql.Query, host.builder config query = .ok built →
        host.Passes config request.pairs.AsksLimit query built) ∧
      ∀ query built : Memory.Query, host.builder config query = .ok built →
        host.Passes config request.pairs.AsksLimit query built) := by
  intro host largest
  constructor
  · intro largest_lt
    obtain ⟨rows, limit_eq, positive, le, asked, unasked⟩ :=
      exists_limit_of_pos made largest_lt
    refine ⟨rows, positive, le, asked, unasked, ?_, ?_⟩
    · intro query built built_eq
      exact ⟨reported_of_limit limit_eq built_eq, selected_of_limit limit_eq built_eq⟩
    · intro query built built_eq
      exact ⟨reported_of_limit limit_eq built_eq, exists_page_of_limit limit_eq built_eq⟩
  · intro largest_lt
    refine ⟨fun rows => ?_, fun query built => passes_of_nonpos made largest_lt,
      fun query built => passes_of_nonpos made largest_lt⟩
    have uncapped := (effectiveMax_addAll made additions config).trans_le largest_lt
    rw [closingCalls_eq, limit_of_nonpos uncapped, paging_addAll made,
      ← Paging.limit_ofPairs_eq_some_iff]
    simp

/-- A request for two pages, the second one larger than allowed and written with a sign and
blanks. -/
def greedyRequest : Request :=
  ⟨some "limit=2&where_genre=tech&limit=%20%2B99%20&offset=1"⟩

/-- A callback that sets a page of its own and removes it again, a scope, and a largest page. -/
def greedyAdditions : List Addition :=
  [.maxLimit 50, .callback [.limit 80, .offset 4, .stripPagination, .limit 70],
    .scope "published" [], .maxLimit 4]

theorem page_capped_books :
    ∃ engine, ofRequest? Catalogue.Books.policy greedyRequest = .ok engine ∧
      (∃ built, (engine.addAll greedyAdditions).builder {} scopedBooks = .ok built ∧
        (Source.pagination built).1 = some 4) ∧
      (∃ page, ((engine.addAll greedyAdditions).response {} scopedBooks).outcome = .ok page ∧
        page.data.length ≤ 4) ∧
      ∃ built, (engine.addAll greedyAdditions).builder {}
          (Catalogue.Books.query ⟨.sqlite, .ok none, .ok []⟩) = .ok built ∧
        (Source.pagination built).1 = some 4 ∧ built.select.limit = some 4 := by
  have made := ofRequest?_of_check Catalogue.Books.policy greedyRequest rfl
  have asks : greedyRequest.pairs.AsksLimit 99 :=
    Paging.limit_ofPairs_eq_some_iff.mp (by decide +kernel)
  obtain ⟨rows, _, _, asked, _, allTable, stored⟩ :=
    (page_capped made greedyAdditions {}).1 (by decide)
  obtain rfl : rows = 4 := by
    have rows_eq := asked 99 asks
    have min_eq : min (99 : Int) (Catalogue.Books.policy.largestPage greedyAdditions {}) = 4 := by
      decide
    omega
  have inMemory := stored scopedBooks _ (builder_eq_ok_iff.mpr ⟨by decide, rfl⟩)
  have inTable := allTable (Catalogue.Books.query ⟨.sqlite, .ok none, .ok []⟩) _
    (builder_eq_ok_iff.mpr ⟨by decide, rfl⟩)
  exact ⟨_, made, ⟨_, builder_eq_ok_iff.mpr ⟨by decide, rfl⟩, inMemory.1⟩, inMemory.2,
    _, builder_eq_ok_iff.mpr ⟨by decide, rfl⟩, inTable⟩

end

end Engine

end Listing
