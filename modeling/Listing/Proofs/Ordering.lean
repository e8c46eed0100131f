import Listing.Proofs.Effects
import Listing.Proofs.Memory.RowKeys
import Listing.Proofs.Paging.Cover

/-!
# The order of a listing

The orderings of a listing come from the kept parameters of the sort operator, in the order of the
request, or from the default sorting of the policy if there is no such parameter, provided that no
other hook or callback orders the rows.  The listing of rows held in memory is then in the order of
these orderings, and rows that are tied by all of them stay as they are stored
(`Engine.response_ordered`).
-/

namespace Listing

open Bindings (IsLast)

/-- The field and the direction of an ordering. -/
def Call.ordering? : Call → Option (String × Direction)
  | .orderBy field direction => some (field, direction)
  | _ => none

theorem Call.ordering?_of_isPredicate {call : Call} (predicate : call.isPredicate) :
    call.ordering? = none := by
  cases call with
  | orderBy => cases predicate
  | _ => rfl

/-- What a parameter of the sort operator orders by: its field, descending if that is its value. -/
def Param.sortKey? (param : Param) : Option (String × Direction) :=
  if param.operator = .sort then
    param.field?.map fun field =>
      (field, if param.value = some "desc" then .descending else .ascending)
  else none

/-- Of the hooks and callbacks of a policy only that for the default sorting orders the rows, and
none removes orderings.  Of several callbacks for a name only the last one counts. -/
structure Policy.OrdersByDefault (policy : Policy) : Prop where
  neverStrips : policy.NeverStrips
  prepare : ∀ call ∈ policy.prepare, call.ordering? = none
  custom : ∀ {token : String} {run : Callback}, IsLast token run policy.registry.customs →
    ∀ value secondary, ∀ call ∈ run value secondary, call.ordering? = none
  override : ∀ {key : Operator × String} {run : Callback},
    IsLast key run policy.registry.overrides →
      ∀ value secondary, ∀ call ∈ run value secondary, call.ordering? = none

namespace Param

theorem Makes.filterMap_ordering? {matching : LikeOperator} {field : String} {operator : Operator}
    {secondary : Option String} {value : Value} {calls : List Call}
    (makes : Makes matching field operator secondary value calls) (operator_ne : operator ≠ .sort) :
    calls.filterMap Call.ordering? = [] := by
  cases makes with
  | sort => exact absurd rfl operator_ne
  | hasAll related items => simp [List.filterMap_eq_nil_iff, Call.ordering?]
  | _ => rfl

end Param

namespace Policy

variable {policy : Policy} {pair : String × String} {param : Param}

theorem Admits.filterMap_ordering? (admits : policy.Admits pair param)
    (ordersByDefault : policy.OrdersByDefault) {matching : LikeOperator} {calls : List Call}
    (calls_eq : param.calls? matching = some calls) :
    calls.filterMap Call.ordering? = param.sortKey?.toList := by
  obtain ⟨value, value_eq, run_eq⟩ := Option.bind_eq_some_iff.mp calls_eq
  cases admits with
  | custom _ _ _ registered =>
      cases run_eq
      exact List.filterMap_eq_nil_iff.mpr (ordersByDefault.custom registered _ _)
  | override _ _ _ registered =>
      cases run_eq
      exact List.filterMap_eq_nil_iff.mpr (ordersByDefault.override registered _ _)
  | @listed _ raw key =>
      have makes := Param.fieldCalls?_eq_some_iff.mp run_eq
      by_cases operator_eq : key.operator = .sort
      · rw [Param.sortKey?, if_pos operator_eq]
        dsimp only at makes
        rw [operator_eq] at makes
        cases makes with
        | sort direction =>
            obtain ⟨_, raw_eq, _, normal⟩ := Param.normalized?_eq_some_iff.mp value_eq
            cases raw_eq
            have direction_eq : direction = raw := by
              simp only [operator_eq, Param.normalize, Option.ite_none_right_eq_some,
                Option.some.injEq, Value.text.injEq] at normal
              exact normal.2.symm
            rw [direction_eq, Param.directionOf]
            simp [Call.ordering?, Param.field?]
      · rw [makes.filterMap_ordering? operator_eq, Param.sortKey?, if_neg operator_eq]
        rfl

/-- An admitted parameter has a sort key if it is one of the sort operator. -/
theorem Admits.sortKey?_isSome_iff (admits : policy.Admits pair param) :
    param.sortKey?.isSome ↔ param.operator = .sort := by
  by_cases operator_eq : param.operator = .sort
  · refine iff_of_true ?_ operator_eq
    rw [Param.sortKey?, if_pos operator_eq]
    cases admits with
    | custom | override => cases operator_eq
    | listed => rfl
  · rw [Param.sortKey?, if_neg operator_eq]
    exact iff_of_false Bool.false_ne_true operator_eq

end Policy

namespace Memory.Query

theorem orderings_eq (query : Query) : query.orderings = query.log.filterMap Call.ordering? := by
  rw [orderings]
  congr

/-- Calls that remove nothing add their orderings to those of a query. -/
theorem orderings_attemptAll (query : Query) {calls : List Call}
    (noneStrips : ∀ call ∈ calls, call.isStrip = false) :
    (Source.attemptAll query calls).orderings =
      query.orderings ++ calls.filterMap Call.ordering? := by
  have recorded_eq : (query.recorded calls).filterMap Call.ordering? =
      calls.filterMap Call.ordering? := by
    rw [recorded, List.filterMap_filter]
    apply List.filterMap_congr
    intro call _
    cases call with
    | applyScope => exact ite_self _
    | _ => rfl
  rw [orderings_eq, orderings_eq, attemptAll_log query noneStrips, List.filterMap_append,
    recorded_eq]

end Memory.Query

namespace Engine

variable {policy : Policy} {request : Request} {engine : Engine}

/-- The orderings of an engine: those of the kept parameters of the sort operator, in their order,
or those of the default sorting if there are none. -/
def orderings (engine : Engine) : List (String × Direction) :=
  if engine.params.filterMap Param.sortKey? = [] then
    engine.policy.defaultSorting.filterMap Call.ordering?
  else engine.params.filterMap Param.sortKey?

theorem filterMap_ordering?_paramCalls (made : ofRequest? policy request = .ok engine)
    (ordersByDefault : policy.OrdersByDefault) (config : Config) :
    (engine.paramCalls config).filterMap Call.ordering? =
      engine.params.filterMap Param.sortKey? := by
  rw [paramCalls, List.filterMap_flatMap, List.filterMap_eq_flatMap_toList]
  apply List.flatMap_congr
  intro param param_mem
  obtain ⟨pair, calls, admits, calls_eq⟩ :=
    exists_calls?_of_mem_params made config.likeOperator param_mem
  rw [calls_eq, Option.getD_some, admits.filterMap_ordering? ordersByDefault calls_eq]

/-- There are such parameters exactly if the default sorting is not needed. -/
theorem filterMap_sortKey?_eq_nil_iff (made : ofRequest? policy request = .ok engine) :
    engine.params.filterMap Param.sortKey? = [] ↔
      ¬∃ param ∈ engine.params, param.operator = .sort := by
  rw [List.filterMap_eq_nil_iff]
  push Not
  refine forall₂_congr fun param param_mem => ?_
  obtain ⟨pair, admits⟩ := admits_of_mem_params made param_mem
  rw [← Option.not_isSome_iff_eq_none, admits.sortKey?_isSome_iff]

section

variable {additions : List Addition}

/-- The calls of the host and of the request order the rows by the orderings of the engine. -/
theorem filterMap_ordering?_hostCalls (made : ofRequest? policy request = .ok engine)
    (ordersByDefault : policy.OrdersByDefault)
    (callbacksOnly : ∀ calls ∈ Addition.callbacks additions, ∀ call ∈ calls, call.ordering? = none)
    (config : Config) :
    ((engine.addAll additions).hostCalls config).filterMap Call.ordering? = engine.orderings := by
  have prepare_eq : policy.prepare.filterMap Call.ordering? = [] :=
    List.filterMap_eq_nil_iff.mpr ordersByDefault.prepare
  have added_eq : (Addition.callbacks additions).flatten.filterMap Call.ordering? = [] := by
    rw [List.filterMap_eq_nil_iff, List.forall_mem_flatten]
    exact callbacksOnly
  have pure_eq : (if request.pairs.has Paging.pureName then [Call.withoutEagerLoading]
      else []).filterMap Call.ordering? = [] := by
    split <;> rfl
  have scopes_eq : ((engine.addAll additions).activeScopes.map scopeCall).filterMap
      Call.ordering? = [] := by
    rw [List.filterMap_map, List.filterMap_eq_nil_iff]
    exact fun _ _ => rfl
  have default_eq : engine.policy = policy := by
    obtain ⟨_, rfl⟩ := ofRequest?_eq_ok_iff.mp made
    rfl
  rw [hostCalls, openingCalls_addAll made]
  simp only [List.filterMap_append, prepare_eq, added_eq, pure_eq, scopes_eq, List.nil_append,
    List.append_nil, filterMap_ordering?_paramCalls made ordersByDefault]
  rw [orderings, default_eq]
  by_cases sorted : ∃ param ∈ engine.params, param.operator = .sort
  · have keys_ne := mt (filterMap_sortKey?_eq_nil_iff made).mp (not_not.mpr sorted)
    rw [if_pos sorted, if_neg keys_ne, List.filterMap_nil, List.append_nil]
  · have keys_eq := (filterMap_sortKey?_eq_nil_iff made).mpr sorted
    rw [if_neg sorted, if_pos keys_eq, keys_eq, List.nil_append]

theorem isStrip_of_mem_hostCalls (made : ofRequest? policy request = .ok engine)
    (neverStrips : policy.NeverStrips)
    (callbacksOnly : ∀ calls ∈ Addition.callbacks additions, ∀ call ∈ calls, call.isStrip = false)
    {config : Config} {call : Call}
    (call_mem : call ∈ (engine.addAll additions).hostCalls config) : call.isStrip = false := by
  rcases List.mem_append.mp call_mem with call_mem | call_mem
  · exact allowed_of_mem_openingCalls made (Policy.neverStrips_iff.mp neverStrips)
      Call.isStrip_of_named rfl callbacksOnly call_mem
  · obtain ⟨scope, _, rfl⟩ := List.mem_map.mp call_mem
    rfl

end

/-- Under a policy whose default sorting is the only hook that orders the rows, with callbacks of
the host that neither order them nor remove orderings, and with stored rows that have all scopes: a
listing answers with a page of the stored rows that meet all conditions.  If no column that is
ordered by has numbers in some of these rows and values that are neither numbers nor null in others,
then they are in the order of the parameters of the sort operator that are kept, the first of which
counts most, or in that of the default sorting if none is kept.  Rows that are tied by all orderings
are in the order in which they are stored, whatever the directions are.  The page is a part of them,
and it is all of them without a largest page, a limit and an offset. -/
theorem response_ordered (made : ofRequest? policy request = .ok engine)
    (ordersByDefault : policy.OrdersByDefault) {additions : List Addition}
    (callbacksOnly : ∀ calls ∈ Addition.callbacks additions, ∀ call ∈ calls,
      call.ordering? = none ∧ call.isStrip = false)
    {query : Memory.Query}
    (known : ∀ name arguments, Addition.Activates additions name arguments →
      (query.scopes.lookup name).isSome)
    (config : Config) :
    let host := engine.addAll additions
    let orderings := query.orderings ++ engine.orderings
    let matching := query.rows.filter fun row =>
      (query.log ++ query.recorded (host.hostCalls config)).all (row.meets query.scopes)
    (∀ ordering ∈ orderings, ¬Memory.Row.Mixed matching ordering.1) →
      ∃ page rows, host.response config query = .done page ∧
        rows.Perm matching ∧
        (rows.Pairwise fun row other =>
          Memory.Row.AheadByAll orderings row other ∨ Memory.Row.Tied orderings row other) ∧
        (∀ row ∈ matching,
          rows.filter (fun other => decide (Memory.Row.Tied orderings row other)) =
            matching.filter fun other => decide (Memory.Row.Tied orderings row other)) ∧
        page.data =
          (Memory.Query.paged page.extent.limit page.extent.offset rows).map .object ∧
        (policy.largestPage additions config ≤ 0 →
          (Paging.ofPairs request.pairs).limit = none →
          (Paging.ofPairs request.pairs).offset.getD 0 = 0 →
          (host.hosted config query).limit = none →
            page.extent = ⟨none, 0, rows.length⟩ ∧ page.data = rows.map .object) := by
  intro host orderings matching unmixed
  have orderings_eq : (host.hosted config query).orderings = orderings := by
    rw [hosted, Memory.Query.orderings_attemptAll,
      filterMap_ordering?_hostCalls made ordersByDefault]
    · exact fun calls calls_mem call call_mem => (callbacksOnly calls calls_mem call call_mem).1
    · intro call call_mem
      exact isStrip_of_mem_hostCalls made ordersByDefault.neverStrips
        (fun calls calls_mem call call_mem => (callbacksOnly calls calls_mem call call_mem).2)
        call_mem
  have matching_eq : (host.hosted config query).matching = matching :=
    query.matching_attemptAll _
  have none_missing : host.missingScope? query = none :=
    (missingScope?_addAll_eq_none_iff made).mpr known
  rw [← orderings_eq, ← matching_eq] at unmixed
  obtain ⟨ordered, allTies⟩ := Memory.Query.ordered_of_unmixed unmixed
  have perm := (host.hosted config query).ordered_perm
  rw [orderings_eq] at ordered allTies
  rw [matching_eq] at allTies perm
  refine ⟨_, (host.hosted config query).ordered, response_of_known none_missing, perm, ordered,
    allTies, rfl, ?_⟩
  intro largest limit_eq offset_eq unlimited
  have eq_none : host.limit config = none := by
    rw [← effectiveMax_addAll made] at largest
    rw [limit_of_nonpos largest, paging_addAll made, limit_eq]
  have start_eq : host.offset = 0 := by rw [Engine.offset, paging_addAll made, offset_eq]
  have length_eq : (host.hosted config query).matching.length =
      (host.hosted config query).ordered.length := by
    rw [matching_eq, perm.length_eq]
  dsimp only
  rw [eq_none, start_eq, unlimited, length_eq]
  exact ⟨rfl, rfl⟩

theorem ordersByDefault_books : Catalogue.Books.policy.OrdersByDefault where
  neverStrips := Policy.neverStrips_iff.mpr (callsOnly_books Call.isStrip_of_named)
  prepare := by simp [Catalogue.Books.policy]
  custom := fun isLast value secondary call call_mem =>
    Call.ordering?_of_isPredicate (addsConditions_books.custom isLast value secondary call call_mem)
  override := fun isLast value secondary call call_mem =>
    Call.ordering?_of_isPredicate
      (addsConditions_books.override isLast value secondary call call_mem)

/-- Two books of one price, one without a price and a dear one, as they are stored. -/
def pricedBooks : List Memory.Row := [
  Catalogue.Books.book 1 "Rust in Action" 30 2021 "published" "TECH" true [] [],
  [("id", .ofInt 2), ("title", .string "Sketches")],
  Catalogue.Books.book 3 "Rust Atomics" 30 2023 "published" "TECH" true [] [],
  Catalogue.Books.book 4 "Systems Thinking" 45 2008 "archived" "SCI" true [] []]

/-- The dear books first; the second wish comes too late to change that. -/
def dearFirstRequest : Request :=
  ⟨some "sort_price=desc&sort_price=asc"⟩

theorem response_ordered_books :
    ∃ (engine : Engine) (page : Page (List Json)) (rows : List Memory.Row),
      ofRequest? Catalogue.Books.policy dearFirstRequest = .ok engine ∧
      (engine.addAll [.maxLimit 0]).response {} (Memory.Query.ofRows pricedBooks) = .done page ∧
      rows.Perm pricedBooks ∧ page.data = rows.map .object ∧
      page.data.map (·.field? "id") =
        [some (.ofInt 4), some (.ofInt 1), some (.ofInt 3), some (.ofInt 2)] := by
  have pairs_eq : dearFirstRequest.pairs = [("sort_price", "desc"), ("sort_price", "asc")] := by
    decide +kernel
  have made := ofRequest?_of_check Catalogue.Books.policy dearFirstRequest rfl
  have callbacksOnly : ∀ calls ∈ Addition.callbacks [.maxLimit 0], ∀ call ∈ calls,
      call.ordering? = none ∧ call.isStrip = false :=
    List.forall_mem_nil _
  have known : ∀ name arguments, Addition.Activates [.maxLimit 0] name arguments →
      ((Memory.Query.ofRows pricedBooks).scopes.lookup name).isSome := by
    rintro name arguments ⟨isLast, _⟩
    cases isLast.mem
  rw [pairs_eq] at made
  have allFields : ∀ ordering ∈ [("price", Direction.descending), ("price", .ascending)],
      ordering.1 = "price" := by
    decide
  have allPrices : ∀ {rows : List Memory.Row}, rows ⊆ pricedBooks →
      ¬Memory.Row.Mixed rows "price" := by
    rintro rows subset ⟨_, row, row_mem, value, value_eq, _, notNumber⟩
    have stored := subset row_mem
    simp only [pricedBooks, List.mem_cons, List.not_mem_nil, or_false] at stored
    rcases stored with rfl | rfl | rfl | rfl <;> cases value_eq
    · exact notNumber (.integer 30)
    · exact notNumber (.integer 30)
    · exact notNumber (.integer 45)
  obtain ⟨page, rows, page_eq, perm, _, _, _, all⟩ :=
    response_ordered made ordersByDefault_books callbacksOnly known {}
      fun ordering ordering_mem => by
        rw [allFields ordering ordering_mem]
        exact allPrices (List.filter_subset_self _)
  have paging_eq : Paging.ofPairs dearFirstRequest.pairs = ⟨none, none, none⟩ := by
    rw [pairs_eq]
    rfl
  rw [paging_eq] at all
  obtain ⟨_, data_eq⟩ := all (by decide) rfl rfl rfl
  refine ⟨_, page, rows, made, page_eq, perm, data_eq, ?_⟩
  cases page_eq
  rfl

end Engine

end Listing
