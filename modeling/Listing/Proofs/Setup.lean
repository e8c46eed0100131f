import Listing.Proofs.KeptCalls
import Mathlib.Data.List.Induction
import Mathlib.Data.List.Sort

/-!
# What the host adds to an engine

Between making an engine and applying it, the host adds callbacks, scopes, exclusions and a largest
page in any order and number.  What counts of them: every callback in order, the last arguments of
every scope, and every exclusion.  The parameters and the wanted page stay those of the request.
-/

namespace Listing

open Bindings (Ascending IsLast)

theorem Bindings.Ascending.eq_of_mem_iff {β : Type} {pairs others : List (String × β)}
    (pairsAscending : Ascending pairs) (othersAscending : Ascending others)
    (mem : ∀ pair, pair ∈ pairs ↔ pair ∈ others) : pairs = others := by
  have irrefl : Std.Irrefl fun pair other : String × β => pair.1 < other.1 :=
    ⟨fun pair => String.lt_irrefl pair.1⟩
  have antisymm : Std.Antisymm fun pair other : String × β => pair.1 < other.1 :=
    ⟨fun _ _ less greater => absurd greater (String.lt_asymm less)⟩
  exact List.Pairwise.eq_of_mem_iff pairsAscending othersAscending mem

/-- One thing that the host adds. -/
inductive Addition where
  | callback (calls : List Call)
  | scope (name : String) (arguments : List Json)
  | withoutScope (name : String)
  | maxLimit (rows : Int)

namespace Addition

/-- The calls of an added callback. -/
def callback? : Addition → Option (List Call)
  | callback calls => some calls
  | _ => none

/-- An added scope with its arguments. -/
def scope? : Addition → Option (String × List Json)
  | scope name arguments => some (name, arguments)
  | _ => none

/-- The name of an excluded scope. -/
def excluded? : Addition → Option String
  | withoutScope name => some name
  | _ => none

/-- The callbacks among additions. -/
def callbacks (additions : List Addition) : List (List Call) :=
  additions.filterMap callback?

/-- The scopes among additions. -/
def scopes (additions : List Addition) : List (String × List Json) :=
  additions.filterMap scope?

/-- The excluded names among additions. -/
def excluded (additions : List Addition) : List String :=
  additions.filterMap excluded?

/-- Additions bring a scope with the given arguments into effect: these are the last ones for its
name, and the name is not excluded, be it before or after. -/
def Activates (additions : List Addition) (name : String) (arguments : List Json) : Prop :=
  IsLast name arguments (scopes additions) ∧ name ∉ excluded additions

theorem filterMap_filter_of_none {α : Type} {read? : Addition → Option α} {keep : Addition → Bool}
    (allRead : ∀ addition, keep addition = false → read? addition = none)
    (additions : List Addition) :
    (additions.filter keep).filterMap read? = additions.filterMap read? := by
  rw [List.filterMap_filter]
  apply List.filterMap_congr
  intro addition _
  cases keep_eq : keep addition with
  | true => rfl
  | false => exact (allRead addition keep_eq).symm

end Addition

namespace Engine

/-- Adds one thing. -/
def add (engine : Engine) : Addition → Engine
  | .callback calls => engine.withCallback calls
  | .scope name arguments => engine.withScope name arguments
  | .withoutScope name => engine.withoutScope name
  | .maxLimit rows => engine.withMaxLimit rows

/-- Adds several things, one after the other. -/
def addAll (engine : Engine) (additions : List Addition) : Engine :=
  additions.foldl add engine

theorem addAll_concat (engine : Engine) (additions : List Addition) (addition : Addition) :
    engine.addAll (additions ++ [addition]) = (engine.addAll additions).add addition := by
  simp [addAll]

theorem addAll_origin (engine : Engine) (additions : List Addition) :
    (engine.addAll additions).policy = engine.policy ∧
      (engine.addAll additions).params = engine.params ∧
      (engine.addAll additions).paging = engine.paging := by
  induction additions using List.reverseRecOn with
  | nil => exact ⟨rfl, rfl, rfl⟩
  | append_singleton additions addition ih =>
      rw [addAll_concat]
      cases addition <;> exact ih

/-- A list of the engine that each addition makes longer by what it adds to it, if anything, holds
what all additions add to it, in order. -/
theorem addAll_collects {α : Type} {collected : Engine → List α} {added? : Addition → Option α}
    (step : ∀ (engine : Engine) (addition : Addition),
      collected (engine.add addition) = collected engine ++ (added? addition).toList)
    (engine : Engine) (additions : List Addition) :
    collected (engine.addAll additions) = collected engine ++ additions.filterMap added? := by
  induction additions using List.reverseRecOn with
  | nil => simp [addAll]
  | append_singleton additions addition ih =>
      rw [addAll_concat, step, ih, List.filterMap_append, List.append_assoc]
      cases added_eq : added? addition <;> simp [added_eq]

theorem addAll_callbacks (engine : Engine) (additions : List Addition) :
    (engine.addAll additions).callbacks =
      engine.callbacks ++ Addition.callbacks additions := by
  apply addAll_collects
  intro engine addition
  cases addition with
  | callback calls => rfl
  | _ => exact (List.append_nil _).symm

theorem addAll_excluded (engine : Engine) (additions : List Addition) :
    (engine.addAll additions).excluded = engine.excluded ++ Addition.excluded additions := by
  apply addAll_collects
  intro engine addition
  cases addition with
  | withoutScope name => rfl
  | _ => exact (List.append_nil _).symm

theorem ascending_addAll_scopes {engine : Engine} (ascending : Ascending engine.scopes)
    (additions : List Addition) : Ascending (engine.addAll additions).scopes := by
  induction additions using List.reverseRecOn with
  | nil => exact ascending
  | append_singleton additions addition ih =>
      rw [addAll_concat]
      cases addition with
      | scope name arguments => exact ih.setSorted name arguments
      | _ => exact ih

/-- An engine without scopes has afterwards the added scopes, each with its last arguments. -/
theorem mem_addAll_scopes_iff {engine : Engine} (empty : engine.scopes = [])
    (additions : List Addition) {name : String} {arguments : List Json} :
    (name, arguments) ∈ (engine.addAll additions).scopes ↔
      IsLast name arguments (Addition.scopes additions) := by
  have ascending : Ascending engine.scopes := by simp [empty, Ascending]
  rw [← Bindings.last?_eq_some_iff]
  induction additions using List.reverseRecOn with
  | nil => simp [addAll, empty, Addition.scopes]
  | append_singleton additions addition ih =>
      rw [addAll_concat, Addition.scopes, List.filterMap_append, ← Addition.scopes]
      cases addition with
      | scope other given =>
          have beforeAscending := ascending_addAll_scopes ascending additions
          rw [add, withScope, Bindings.mem_setSorted_iff beforeAscending]
          simp only [ih, List.filterMap_cons, Addition.scope?, List.filterMap_nil,
            Bindings.last?_append_singleton]
          by_cases name_eq : other = name
          · subst name_eq
            simp [eq_comm]
          · simp [name_eq, Ne.symm name_eq]
      | _ =>
          rw [List.filterMap_cons_none rfl, List.filterMap_nil, List.append_nil]
          exact ih

theorem ascending_activeScopes {engine : Engine} (ascending : Ascending engine.scopes) :
    Ascending engine.activeScopes :=
  List.Pairwise.filter _ ascending

/-- The scopes that are applied are the added ones, each with its last arguments, except for those
that are excluded before or after. -/
theorem mem_activeScopes_addAll_iff {engine : Engine} (scopes_eq : engine.scopes = [])
    (excluded : engine.excluded = []) (additions : List Addition) {name : String}
    {arguments : List Json} :
    (name, arguments) ∈ (engine.addAll additions).activeScopes ↔
      Addition.Activates additions name arguments := by
  rw [activeScopes, List.mem_filter, mem_addAll_scopes_iff scopes_eq, addAll_excluded, excluded,
    List.nil_append, Addition.Activates]
  simp

/-- Engines without scopes apply the same ones after additions that bring the same into effect. -/
theorem activeScopes_addAll_eq {engine other : Engine} {additions others : List Addition}
    (fresh : engine.scopes = [] ∧ engine.excluded = [])
    (otherFresh : other.scopes = [] ∧ other.excluded = [])
    (active : ∀ name arguments, Addition.Activates additions name arguments ↔
      Addition.Activates others name arguments) :
    (engine.addAll additions).activeScopes = (other.addAll others).activeScopes := by
  apply Ascending.eq_of_mem_iff
  · apply ascending_activeScopes
    apply ascending_addAll_scopes
    simp [fresh.1, Ascending]
  · apply ascending_activeScopes
    apply ascending_addAll_scopes
    simp [otherFresh.1, Ascending]
  · rintro ⟨name, arguments⟩
    rw [mem_activeScopes_addAll_iff fresh.1 fresh.2,
      mem_activeScopes_addAll_iff otherFresh.1 otherFresh.2, active]

/-! ## The calls -/

/-- The calls after the scopes are that of the limit, if there is one, and that of the offset. -/
theorem closingCalls_eq (engine : Engine) (config : Config) :
    engine.closingCalls config =
      (engine.limit config).toList.map .limit ++ [.offset engine.offset] := by
  rw [closingCalls]
  cases engine.limit config <;> rfl

theorem isPage_of_mem_closingCalls {engine : Engine} {config : Config} {call : Call}
    (call_mem : call ∈ engine.closingCalls config) : call.isPage := by
  rw [closingCalls_eq, List.mem_append, List.mem_map, List.mem_singleton] at call_mem
  rcases call_mem with ⟨rows, _, rfl⟩ | rfl
  · rfl
  · rfl

section

variable {policy : Policy} {request : Request} {engine : Engine}

/-- The calls before the scopes, by where they come from. -/
theorem openingCalls_addAll (made : ofRequest? policy request = .ok engine)
    (additions : List Addition) (config : Config) :
    (engine.addAll additions).openingCalls config =
      policy.prepare ++ engine.paramCalls config ++
        (if ∃ param ∈ engine.params, param.operator = .sort then [] else policy.defaultSorting) ++
        (Addition.callbacks additions).flatten ++
        (if request.pairs.has Paging.pureName then [.withoutEagerLoading] else []) := by
  obtain ⟨policy_eq, params_eq, paging_eq⟩ := addAll_origin engine additions
  have sorted := isSorted_iff made config
  obtain ⟨_, rfl⟩ := ofRequest?_eq_ok_iff.mp made
  simp only [openingCalls, paramCalls, isSorted, policy_eq, params_eq, paging_eq, addAll_callbacks,
    List.nil_append, Paging.isPure_ofPairs] at sorted ⊢
  simp only [sorted]

/-- Engines with the same parameters and the same callbacks make the same calls before the scopes,
if both or neither of their requests ask for a lean response. -/
theorem openingCalls_addAll_congr {otherRequest : Request} {otherEngine : Engine}
    (made : ofRequest? policy request = .ok engine)
    (otherMade : ofRequest? policy otherRequest = .ok otherEngine)
    (params_eq : engine.params = otherEngine.params)
    (pure_eq : request.pairs.has Paging.pureName = otherRequest.pairs.has Paging.pureName)
    {additions others : List Addition}
    (callbacks_eq : Addition.callbacks additions = Addition.callbacks others) (config : Config) :
    (engine.addAll additions).openingCalls config =
      (otherEngine.addAll others).openingCalls config := by
  rw [openingCalls_addAll made, openingCalls_addAll otherMade, paramCalls, paramCalls, params_eq,
    pure_eq, callbacks_eq]

/-- If all hooks and callbacks make calls of a kind, then all calls before the scopes are of that
kind, as far as conditions, orderings and the mark for lean responses are. -/
theorem allowed_of_mem_openingCalls (made : ofRequest? policy request = .ok engine)
    {allowed : Call → Prop} (callsOnly : policy.CallsOnly allowed)
    (allNamed : ∀ {call named}, Call.named? call = some named → allowed call)
    (mark : allowed .withoutEagerLoading) {additions : List Addition}
    (callbacksOnly : ∀ calls ∈ Addition.callbacks additions, ∀ call ∈ calls, allowed call)
    {config : Config} {call : Call}
    (call_mem : call ∈ (engine.addAll additions).openingCalls config) : allowed call := by
  rw [openingCalls_addAll made] at call_mem
  simp only [List.mem_append, List.mem_flatten, or_assoc] at call_mem
  rcases call_mem with call_mem | call_mem | call_mem | ⟨calls, calls_mem, call_mem⟩ | call_mem
  · exact callsOnly.prepare call call_mem
  · exact allowed_of_mem_paramCalls made callsOnly allNamed call_mem
  · split at call_mem
    · cases call_mem
    · exact callsOnly.defaultSorting call call_mem
  · exact callbacksOnly calls calls_mem call call_mem
  · split at call_mem
    · obtain rfl := List.mem_singleton.mp call_mem
      exact mark
    · cases call_mem

end

end Engine

end Listing
