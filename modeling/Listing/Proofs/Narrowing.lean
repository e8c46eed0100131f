import Listing.Proofs.Application
import Listing.Proofs.Setup

/-!
# Calls that narrow a listing

Conditions and scopes can keep rows out of a listing; orderings, limits, offsets and the mark for
lean responses cannot.  `Engine.narrowing` collects where the former come from, and
`Engine.filter_narrows_calls` says that an engine makes no others, so that neither its page nor the
sorting parameters of its request have a part in which rows match.
-/

namespace Listing

namespace Call

/-- Calls that can keep rows out of a listing. -/
def narrows : Call → Bool
  | applyScope .. => true
  | call => call.isPredicate

/-- Whether a call orders the rows. -/
def isOrdering : Call → Bool
  | orderBy .. => true
  | _ => false

theorem narrows_of_isPagination {call : Call} (pagination : call.isPagination) :
    call.narrows = false := by
  cases call with
  | limit | offset | orderBy | stripPagination => rfl
  | _ => cases pagination

theorem narrows_of_isPage {call : Call} (isPage : call.isPage) : call.narrows = false := by
  cases call with
  | limit | offset => rfl
  | _ => cases isPage

theorem narrows_of_isOrdering {call : Call} (ordering : call.isOrdering) :
    call.narrows = false := by
  cases call with
  | orderBy => rfl
  | _ => cases ordering

theorem filter_narrows_eq_nil {calls : List Call} (idle : ∀ call ∈ calls, call.narrows = false) :
    calls.filter narrows = [] :=
  List.filter_eq_nil_iff.mpr fun call call_mem => by simp [idle call call_mem]

end Call

namespace Param

theorem isOrdering_of_sort {matching : LikeOperator} {field : String} {secondary : Option String}
    {value : Value} {calls : List Call}
    (calls_eq : fieldCalls? .sort matching field secondary value = some calls) {call : Call}
    (call_mem : call ∈ calls) : call.isOrdering := by
  cases fieldCalls?_eq_some_iff.mp calls_eq with
  | sort direction =>
      rcases List.mem_singleton.mp call_mem with rfl
      rfl

/-- Whether a parameter is of the sort operator. -/
def isSort (param : Param) : Bool :=
  param.operator == .sort

end Param

/-- A parameter of the sort operator that a policy admits orders the rows. -/
theorem Policy.Admits.isOrdering {policy : Policy} {pair : String × String} {param : Param}
    (admits : policy.Admits pair param) (isSort : param.isSort) {matching : LikeOperator}
    {calls : List Call} (calls_eq : param.calls? matching = some calls) {call : Call}
    (call_mem : call ∈ calls) : call.isOrdering := by
  cases admits with
  | custom | override => cases isSort
  | @listed _ _ key =>
      obtain ⟨value, _, field_eq⟩ := Option.bind_eq_some_iff.mp calls_eq
      have operator_eq : key.operator = .sort := by simpa [Param.isSort] using isSort
      simp only [operator_eq] at field_eq
      exact Param.isOrdering_of_sort field_eq call_mem

/-- Elements that contribute nothing of a kind can be left out, as far as that kind goes. -/
theorem filter_flatMap_filter {α β : Type} {parts : α → List β} {kind : β → Bool} {keep : α → Bool}
    {xs : List α} (idle : ∀ x ∈ xs, keep x = false → (parts x).filter kind = []) :
    ((xs.filter keep).flatMap parts).filter kind = (xs.flatMap parts).filter kind := by
  induction xs with
  | nil => rfl
  | cons x xs ih =>
      have rest_eq := ih fun y y_mem => idle y (List.mem_cons_of_mem _ y_mem)
      cases keep_eq : keep x with
      | true =>
          rw [List.filter_cons_of_pos keep_eq, List.flatMap_cons, List.flatMap_cons,
            List.filter_append, List.filter_append, rest_eq]
      | false =>
          rw [List.filter_cons_of_neg (by simp [keep_eq]), List.flatMap_cons, List.filter_append,
            idle x List.mem_cons_self keep_eq, List.nil_append, rest_eq]

namespace Addition

/-- Whether an addition has nothing to do with the largest page. -/
def leavesCap : Addition → Bool
  | maxLimit _ => false
  | _ => true

/-- Nothing but largest pages is read off additions that agree in all else. -/
theorem filterMap_eq_of_filter_eq {α : Type} {read? : Addition → Option α}
    (allCap : ∀ rows, read? (maxLimit rows) = none) {additions others : List Addition}
    (additions_eq : additions.filter leavesCap = others.filter leavesCap) :
    additions.filterMap read? = others.filterMap read? := by
  have filters : ∀ additions : List Addition,
      (additions.filter leavesCap).filterMap read? = additions.filterMap read? := by
    apply filterMap_filter_of_none
    intro addition leaves
    cases addition with
    | maxLimit rows => exact allCap rows
    | _ => cases leaves
  rw [← filters additions, additions_eq, filters others]

theorem callbacks_congr {additions others : List Addition}
    (additions_eq : additions.filter leavesCap = others.filter leavesCap) :
    callbacks additions = callbacks others :=
  filterMap_eq_of_filter_eq (fun _ => rfl) additions_eq

end Addition

namespace Engine

/-- The calls of an engine that may narrow the listing, by where they come from: all but the default
order, the parameters of the sort operator, the mark for lean responses and the page. -/
def narrowing (engine : Engine) (config : Config) : List Call :=
  engine.policy.prepare ++
    (engine.params.filter (!·.isSort)).flatMap (fun param =>
      (param.calls? config.likeOperator).getD []) ++
    engine.callbacks.flatten ++ engine.activeScopes.map scopeCall

variable {policy : Policy} {request : Request} {engine : Engine}

theorem fresh_of_ofRequest? (made : ofRequest? policy request = .ok engine) :
    engine.policy = policy ∧ engine.callbacks = [] ∧ engine.scopes = [] ∧ engine.excluded = [] := by
  obtain ⟨_, rfl⟩ := ofRequest?_eq_ok_iff.mp made
  exact ⟨rfl, rfl, rfl, rfl⟩

/-- After additions no scope is missing exactly if the query has all that they bring into effect. -/
theorem missingScope?_addAll_eq_none_iff {Q Row : Type} [Source Q Row] [LawfulSource Q Row]
    (made : ofRequest? policy request = .ok engine) {additions : List Addition} {query : Q} :
    (engine.addAll additions).missingScope? query = none ↔
      ∀ name arguments, Addition.Activates additions name arguments →
        LawfulSource.hasScope query name := by
  obtain ⟨_, _, scopes_eq, excluded⟩ := fresh_of_ofRequest? made
  rw [missingScope?_eq_none_iff, Prod.forall]
  simp only [mem_activeScopes_addAll_iff scopes_eq excluded]

theorem filter_narrows_paramCalls (made : ofRequest? policy request = .ok engine)
    (config : Config) :
    (engine.paramCalls config).filter Call.narrows =
      ((engine.params.filter (!·.isSort)).flatMap fun param =>
        (param.calls? config.likeOperator).getD []).filter Call.narrows := by
  symm
  apply filter_flatMap_filter
  intro param param_mem passed
  have isSort : param.isSort := by simpa using passed
  obtain ⟨pair, calls, admits, calls_eq⟩ :=
    exists_calls?_of_mem_params made config.likeOperator param_mem
  rw [calls_eq, Option.getD_some]
  apply Call.filter_narrows_eq_nil
  intro call call_mem
  exact Call.narrows_of_isOrdering (admits.isOrdering isSort calls_eq call_mem)

theorem filter_narrows_closingCalls (engine : Engine) (config : Config) :
    (engine.closingCalls config).filter Call.narrows = [] :=
  Call.filter_narrows_eq_nil fun _ call_mem =>
    Call.narrows_of_isPage (isPage_of_mem_closingCalls call_mem)

/-- If the default order only orders, then all that narrows comes from the other hooks, the
parameters that do not sort, the callbacks and the scopes. -/
theorem filter_narrows_calls (made : ofRequest? policy request = .ok engine)
    (onlyOrders : ∀ call ∈ policy.defaultSorting, call.isOrdering) (additions : List Addition)
    (config : Config) :
    ((engine.addAll additions).calls config).filter Call.narrows =
      ((engine.addAll additions).narrowing config).filter Call.narrows := by
  obtain ⟨policy_eq, params_eq, _⟩ := addAll_origin engine additions
  have default_eq : (if ∃ param ∈ engine.params, param.operator = .sort then []
      else policy.defaultSorting).filter Call.narrows = [] := by
    split
    · rfl
    · exact Call.filter_narrows_eq_nil fun call call_mem =>
        Call.narrows_of_isOrdering (onlyOrders call call_mem)
  have pure_eq : (if request.pairs.has Paging.pureName then [Call.withoutEagerLoading]
      else []).filter Call.narrows = [] := by
    split <;> rfl
  obtain ⟨origin_eq, callbacks_eq, _⟩ := fresh_of_ofRequest? made
  rw [calls, hostCalls, openingCalls_addAll made, narrowing, policy_eq, params_eq, addAll_callbacks,
    origin_eq, callbacks_eq, List.nil_append]
  simp only [List.filter_append, default_eq, pure_eq, filter_narrows_closingCalls,
    filter_narrows_paramCalls made, List.append_nil]

section

variable {otherRequest : Request} {otherEngine : Engine} {additions others : List Addition}

/-- Engines with the same additions, largest pages aside, apply the same scopes. -/
theorem activeScopes_addAll_congr (made : ofRequest? policy request = .ok engine)
    (otherMade : ofRequest? policy otherRequest = .ok otherEngine)
    (additions_eq : additions.filter Addition.leavesCap = others.filter Addition.leavesCap) :
    (engine.addAll additions).activeScopes = (otherEngine.addAll others).activeScopes := by
  apply activeScopes_addAll_eq (fresh_of_ofRequest? made).2.2 (fresh_of_ofRequest? otherMade).2.2
  intro name arguments
  rw [Addition.Activates, Addition.Activates, Addition.scopes, Addition.scopes, Addition.excluded,
    Addition.excluded, Addition.filterMap_eq_of_filter_eq (fun _ => rfl) additions_eq,
    Addition.filterMap_eq_of_filter_eq (fun _ => rfl) additions_eq]

/-- Two engines narrow the listing by the same calls, if they have the same parameters but for those
of the sort operator and the same additions but for largest pages. -/
theorem narrowing_addAll_congr (made : ofRequest? policy request = .ok engine)
    (otherMade : ofRequest? policy otherRequest = .ok otherEngine)
    (params_eq : engine.params.filter (!·.isSort) = otherEngine.params.filter (!·.isSort))
    (additions_eq : additions.filter Addition.leavesCap = others.filter Addition.leavesCap)
    (config : Config) :
    (engine.addAll additions).narrowing config = (otherEngine.addAll others).narrowing config := by
  obtain ⟨policy_eq, callbacks_eq, _⟩ := fresh_of_ofRequest? made
  obtain ⟨otherPolicy_eq, otherCallbacks_eq, _⟩ := fresh_of_ofRequest? otherMade
  simp only [narrowing, addAll_origin, addAll_callbacks, policy_eq, otherPolicy_eq, callbacks_eq,
    otherCallbacks_eq, params_eq, Addition.callbacks_congr additions_eq,
    activeScopes_addAll_congr made otherMade additions_eq]

end

end Engine

end Listing
