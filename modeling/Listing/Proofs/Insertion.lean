import Listing.Proofs.Effects
import Listing.Proofs.Memory.Layout
import Listing.Proofs.Rejection

/-!
# Added parameters

Pairs can be added to a request in any place.  If none of them is kept as a parameter of the sort
operator, then what narrows the listing is what narrowed it before together with the calls of the
parameters that are kept of them, in some order (`Engine.filter_narrows_calls_perm`).  So of rows
held in memory those stay that meet these calls (`Engine.matching_built_perm`), and a listing that
could be built before can be built with the pairs.
-/

namespace Listing

theorem Key.not_mem_pageNames {name : String} {key : Key} (parsed : Key.parse? name = some key) :
    name ∉ [Paging.limitName, Paging.offsetName, Paging.pureName] := by
  have never : ∀ other ∈ [Paging.limitName, Paging.offsetName, Paging.pureName],
      Key.parse? other = none := by
    decide +kernel
  intro name_mem
  rw [never name name_mem] at parsed
  cases parsed

namespace Engine

variable {policy : Policy} {request otherRequest : Request} {engine otherEngine : Engine}
  {pairs : Pairs}

/-- The parameters of a request with added pairs are those that are kept of the pairs and those of
the request, in some order. -/
theorem params_perm_append (made : ofRequest? policy request = .ok engine)
    (otherMade : ofRequest? policy otherRequest = .ok otherEngine)
    (pairs_perm : otherRequest.pairs.Perm (pairs ++ request.pairs)) :
    otherEngine.params.Perm (policy.keepAll pairs ++ engine.params) := by
  rcases ofRequest?_eq_ok_iff.mp made with ⟨_, rfl⟩
  rcases ofRequest?_eq_ok_iff.mp otherMade with ⟨_, rfl⟩
  have append_eq : policy.keepAll (pairs ++ request.pairs) =
      policy.keepAll pairs ++ policy.keepAll request.pairs :=
    List.filterMap_append
  exact append_eq ▸ pairs_perm.filterMap policy.keep?

/-- With pairs added that are kept as no parameters of the sort operator, the listing is narrowed by
the calls of their parameters and by the calls that narrowed it before. -/
theorem filter_narrows_calls_perm (made : ofRequest? policy request = .ok engine)
    (otherMade : ofRequest? policy otherRequest = .ok otherEngine)
    (pairs_perm : otherRequest.pairs.Perm (pairs ++ request.pairs))
    (neverSorts : ∀ param ∈ policy.keepAll pairs, param.operator ≠ .sort)
    (additions : List Addition) (config : Config) :
    (((otherEngine.addAll additions).calls config).filter Call.narrows).Perm
      (((policy.keepAll pairs).flatMap fun param =>
          (param.calls? config.likeOperator).getD []) ++
        (engine.addAll additions).calls config |>.filter Call.narrows) := by
  have params_perm := params_perm_append made otherMade pairs_perm
  have sorted : (∃ param ∈ otherEngine.params, param.operator = .sort) ↔
      ∃ param ∈ engine.params, param.operator = .sort := by
    simp only [params_perm.mem_iff, List.mem_append, or_and_right, exists_or]
    exact or_iff_right fun ⟨param, param_mem, operator_eq⟩ => neverSorts param param_mem operator_eq
  have allPure : ∀ request : Request, (if request.pairs.has Paging.pureName
      then [Call.withoutEagerLoading] else []).filter Call.narrows = [] := by
    intro request
    split <;> rfl
  have scopes_eq := activeScopes_addAll_congr made otherMade (rfl : additions.filter _ = _)
  have calls_perm := (params_perm.flatMap_right fun param =>
    (param.calls? config.likeOperator).getD []).filter Call.narrows
  rw [calls, hostCalls, openingCalls_addAll otherMade, calls, hostCalls, openingCalls_addAll made,
    paramCalls, paramCalls, ← scopes_eq]
  simp only [sorted, List.filter_append, allPure, filter_narrows_closingCalls, List.append_nil]
  rw [List.flatMap_append, List.filter_append] at calls_perm
  simp only [List.append_assoc]
  refine ((calls_perm.append_right _).append_left _).trans ?_
  rw [List.append_assoc]
  exact List.perm_append_comm_assoc ..

/-- Of stored rows those stay listed that meet the calls of the added parameters. -/
theorem matching_built_perm (pairs_perm : otherRequest.pairs.Perm (pairs ++ request.pairs))
    (neverSorts : ∀ param ∈ policy.keepAll pairs, param.operator ≠ .sort)
    {additions : List Addition}
    {config : Config} {query listed : Memory.Query} {added : List Call}
    (added_eq : (policy.keepAll pairs).flatMap
      (fun param => (param.calls? config.likeOperator).getD []) = added)
    (known : ∀ call ∈ added, query.knows call)
    (listed_eq : built policy additions config query request = .ok listed) :
    ∃ found, built policy additions config query otherRequest = .ok found ∧
      found.matching = listed.matching.filter fun row => added.all (row.meets query.scopes) := by
  cases check_eq : policy.check with
  | error reason =>
      simp [built, ofRequest?_eq_error_iff.mpr check_eq, bind, Except.bind] at listed_eq
  | ok _ =>
      have made := ofRequest?_of_check policy request check_eq
      have otherMade := ofRequest?_of_check policy otherRequest check_eq
      have scopes_eq := activeScopes_addAll_congr made otherMade (rfl : additions.filter _ = _)
      have calls_perm :=
        filter_narrows_calls_perm made otherMade pairs_perm neverSorts additions config
      rw [added_eq] at calls_perm
      rw [built_of_engine made, builder_eq_ok_iff] at listed_eq
      rcases listed_eq with ⟨none_missing, rfl⟩
      refine ⟨_, ?_, (query.matching_attemptAll_of_perm calls_perm).trans
        (query.matching_attemptAll_insert known [] _)⟩
      rw [built_of_engine otherMade, builder_eq_ok_iff]
      exact ⟨(missingScope?_congr scopes_eq query).symm.trans none_missing, rfl⟩

/-- With pairs added that name a built-in operator which does not sort, those rows stay listed that
meet the calls of the operator for each of the values. -/
theorem matching_built_offered {name : String} {key : Key} (offers : policy.Offers name key)
    (notSort : key.operator ≠ .sort) {config : Config} {raws : List String}
    (allRaws : ∀ raw ∈ raws, Param.IsValue raw) (made : String → List Call)
    (allMade : ∀ raw ∈ raws, ∃ value, Param.normalize key.operator raw = some value ∧
      Param.Makes config.likeOperator key.field key.operator
        (Param.ofKey key raw).usableSecondary? value (made raw))
    (pairs_perm : otherRequest.pairs.Perm (raws.map (name, ·) ++ request.pairs))
    {additions : List Addition} {query listed : Memory.Query}
    (listed_eq : built policy additions config query request = .ok listed) :
    ∃ found, built policy additions config query otherRequest = .ok found ∧
      found.matching = listed.matching.filter fun row =>
        raws.all fun raw => (made raw).all (row.meets query.scopes) := by
  have kept : ∀ raw ∈ raws, policy.Admits (name, raw) (.ofKey key raw) ∧
      (Param.ofKey key raw).calls? config.likeOperator = some (made raw) := by
    intro raw raw_mem
    rcases allMade raw raw_mem with ⟨value, normal, makes⟩
    exact ⟨offers.admits (allRaws raw raw_mem) normal,
      Param.calls?_ofKey (allRaws raw raw_mem) normal makes⟩
  have keep_eq : policy.keepAll (raws.map (name, ·)) = raws.map (Param.ofKey key) := by
    rw [Policy.keepAll, List.filterMap_map, ← List.filterMap_eq_map]
    apply List.filterMap_congr
    intro raw raw_mem
    exact (policy.keep?_eq_some_iff_admits ..).mpr (kept raw raw_mem).1
  have added_eq : (policy.keepAll (raws.map (name, ·))).flatMap
      (fun param => (param.calls? config.likeOperator).getD []) = raws.flatMap made := by
    rw [keep_eq, List.flatMap_map]
    apply List.flatMap_congr
    intro raw raw_mem
    rw [(kept raw raw_mem).2, Option.getD_some]
  have known : ∀ call ∈ raws.flatMap made, query.knows call := by
    intro call call_mem
    rcases List.mem_flatMap.mp call_mem with ⟨raw, raw_mem, call_mem⟩
    rcases kept raw raw_mem with ⟨admits, calls_eq⟩
    rcases admits.within rfl calls_eq call_mem with ⟨_, named, _⟩
    exact query.knows_of_named named
  have sorts : ∀ param ∈ policy.keepAll (raws.map (name, ·)), param.operator ≠ .sort := by
    rw [keep_eq]
    intro param param_mem
    rcases List.mem_map.mp param_mem with ⟨raw, _, rfl⟩
    exact notSort
  rcases matching_built_perm pairs_perm sorts added_eq known listed_eq with
    ⟨found, found_eq, matching⟩
  exact ⟨found, found_eq, by simpa only [List.all_flatMap] using matching⟩

/-- So an operator with a single call keeps the rows that meet it, if a single pair names it. -/
theorem matching_built_single {name raw : String} {key : Key} {value : Value} {call : Call}
    {config : Config} {query listed : Memory.Query} {wanted : Memory.Row → Prop}
    [DecidablePred wanted] (offers : policy.Offers name key) (notSort : key.operator ≠ .sort)
    (isValue : Param.IsValue raw) (normal : Param.normalize key.operator raw = some value)
    (makes : Param.Makes config.likeOperator key.field key.operator
      (Param.ofKey key raw).usableSecondary? value [call])
    (meets : ∀ row : Memory.Row, row.meets query.scopes call = true ↔ wanted row)
    (pairs_perm : otherRequest.pairs.Perm ((name, raw) :: request.pairs))
    {additions : List Addition}
    (listed_eq : built policy additions config query request = .ok listed) :
    ∃ found, built policy additions config query otherRequest = .ok found ∧
      found.matching = listed.matching.filter fun row => decide (wanted row) := by
  rcases matching_built_offered offers notSort (List.forall_mem_singleton.mpr isValue)
    (fun _ => [call])
    (List.forall_mem_singleton.mpr ⟨value, normal, makes⟩) pairs_perm listed_eq with
    ⟨found, found_eq, matching⟩
  refine ⟨found, found_eq, matching.trans (List.filter_congr fun row _ => ?_)⟩
  simp only [List.all_cons, List.all_nil, Bool.and_true]
  rw [Bool.eq_iff_iff, decide_eq_true_iff]
  exact meets row

end Engine

end Listing
