import Listing.Proofs.Paging.Cap
import Listing.Proofs.Narrowing

/-!
# The order of additions

The host adds callbacks, scopes, exclusions and largest pages to an engine in any order.  Additions
that agree in what counts of them (`Addition.Agree`) make engines that build the same query or fail
alike and have the same page (`Engine.addAll_confluent`).  An exclusion counts wherever it stands:
the engine does what it would do if the scope had never been added.
-/

namespace Listing

open Bindings (IsLast)

namespace Addition

/-- Two sequences of additions have the same callbacks in the same order, the same last arguments
for every scope, the same excluded names and the same last largest page. -/
structure Agree (additions others : List Addition) : Prop where
  callbacks : callbacks additions = callbacks others
  scopes : ∀ name arguments,
    IsLast name arguments (scopes additions) ↔ IsLast name arguments (scopes others)
  excluded : ∀ name, name ∈ excluded additions ↔ name ∈ excluded others
  maxLimit : (additions.filterMap maxLimit?).getLast? = (others.filterMap maxLimit?).getLast?

/-- Two sequences of additions come to the same for an engine: they agree, but for what they say of
scopes that do not come into effect. -/
structure SameEffect (additions others : List Addition) : Prop where
  callbacks : callbacks additions = callbacks others
  activates : ∀ name arguments, Activates additions name arguments ↔ Activates others name arguments
  maxLimit : (additions.filterMap maxLimit?).getLast? = (others.filterMap maxLimit?).getLast?

/-- Whether an addition is one of the scope of the given name. -/
def registers (name : String) : Addition → Bool
  | scope other _ => other == name
  | _ => false

variable {additions others : List Addition}

theorem Agree.append_left (agree : Agree additions others) (earlier : List Addition) :
    Agree (earlier ++ additions) (earlier ++ others) where
  callbacks := by
    rw [Addition.callbacks, Addition.callbacks, List.filterMap_append, List.filterMap_append]
    exact congrArg _ agree.callbacks
  scopes := by
    intro name arguments
    have last_eq : Bindings.last? name (Addition.scopes additions) =
        Bindings.last? name (Addition.scopes others) := by
      apply Option.ext
      intro found
      rw [Bindings.last?_eq_some_iff, Bindings.last?_eq_some_iff, agree.scopes]
    simp only [Addition.scopes, List.filterMap_append, ← Bindings.last?_eq_some_iff,
      Bindings.last?_append] at last_eq ⊢
    rw [last_eq]
  excluded := by
    intro name
    have excluded_iff := agree.excluded name
    simp only [Addition.excluded, List.filterMap_append, List.mem_append] at excluded_iff ⊢
    rw [excluded_iff]
  maxLimit := by
    rw [List.filterMap_append, List.filterMap_append, List.getLast?_append, List.getLast?_append,
      agree.maxLimit]

theorem Agree.sameEffect (agree : Agree additions others) : SameEffect additions others where
  callbacks := agree.callbacks
  activates := fun name arguments =>
    and_congr (agree.scopes name arguments) (not_congr (agree.excluded name))
  maxLimit := agree.maxLimit

/-- What is read of additions other than scopes is there without some of the scopes. -/
theorem filterMap_filter_of_scope {α : Type} {read? : Addition → Option α}
    (allRead : ∀ name arguments, read? (scope name arguments) = none) {keep : Addition → Bool}
    (allKeep : ∀ addition, keep addition = false → addition.scope?.isSome)
    (additions : List Addition) :
    (additions.filter keep).filterMap read? = additions.filterMap read? := by
  apply filterMap_filter_of_none
  intro addition dropped
  cases addition with
  | scope name arguments => exact allRead name arguments
  | _ => cases allKeep _ dropped

theorem scopes_filter (keep : Addition → Bool) (additions : List Addition) :
    scopes (additions.filter keep) =
      (scopes additions).filter fun pair => keep (.scope pair.1 pair.2) := by
  rw [scopes, scopes, List.filterMap_filter, List.filter_filterMap]
  apply List.filterMap_congr
  intro addition _
  cases addition with
  | scope name arguments =>
      cases keep_eq : keep (.scope name arguments) <;> simp [scope?, Option.filter, keep_eq]
  | _ => simp [scope?]

theorem scope?_isSome_of_registers {name : String} {addition : Addition}
    (registers : addition.registers name) : addition.scope?.isSome := by
  cases addition with
  | scope other arguments => rfl
  | _ => cases registers

/-- An excluded scope need not have been added. -/
theorem sameEffect_filter_registers {name : String} (excluded_mem : name ∈ excluded additions) :
    SameEffect additions (additions.filter (!·.registers name)) := by
  have allKeep : ∀ addition : Addition, (!addition.registers name) = false →
      addition.scope?.isSome :=
    fun addition dropped => scope?_isSome_of_registers (by simpa using dropped)
  refine ⟨(filterMap_filter_of_scope (fun _ _ => rfl) allKeep additions).symm, ?_, ?_⟩
  · intro other arguments
    have same : excluded (additions.filter (!·.registers name)) = excluded additions :=
      filterMap_filter_of_scope (fun _ _ => rfl) allKeep additions
    rw [Activates, Activates, same, scopes_filter]
    apply and_congr_left
    intro noOther
    have ne : ∀ pair : String × List Json, pair.1 = other →
        (!(scope pair.1 pair.2).registers name) = true := by
      rintro pair rfl
      exact bne_iff_ne.mpr fun name_eq => noOther (name_eq ▸ excluded_mem)
    rw [← Bindings.last?_eq_some_iff, ← Bindings.last?_eq_some_iff, Bindings.last?_filter ne]
  · rw [filterMap_filter_of_scope (fun _ _ => rfl) allKeep]

end Addition

namespace Engine

variable {policy : Policy} {request : Request} {engine : Engine}

/-! ## Additions that come to the same -/

section

variable {additions others : List Addition}

theorem limit_addAll_congr (made : ofRequest? policy request = .ok engine)
    (same : Addition.SameEffect additions others) (config : Config) :
    (engine.addAll additions).limit config = (engine.addAll others).limit config := by
  have largest : policy.largestPage additions config = policy.largestPage others config := by
    rw [Policy.largestPage, Policy.largestPage, same.maxLimit]
  rw [limit, limit, effectiveMax_addAll made, effectiveMax_addAll made, largest,
    paging_addAll made, paging_addAll made]

theorem offset_addAll_congr (made : ofRequest? policy request = .ok engine) :
    (engine.addAll additions).offset = (engine.addAll others).offset := by
  rw [offset, offset, paging_addAll made, paging_addAll made]

/-- Additions that come to the same build the same query from any query, or fail alike. -/
theorem builder_addAll_congr {Q Row : Type} [Source Q Row]
    (made : ofRequest? policy request = .ok engine)
    (same : Addition.SameEffect additions others) (config : Config) (query : Q) :
    (engine.addAll additions).builder config query =
      (engine.addAll others).builder config query := by
  have fresh := (fresh_of_ofRequest? made).2.2
  apply builder_congr
  · exact openingCalls_addAll_congr made made rfl rfl same.callbacks config
  · exact activeScopes_addAll_eq fresh fresh same.activates
  · rw [closingCalls_eq, closingCalls_eq, limit_addAll_congr made same,
      offset_addAll_congr made]

end

theorem builder_ne_unknownScope {Q Row : Type} [Source Q Row] [LawfulSource Q Row]
    (made : ofRequest? policy request = .ok engine) {additions : List Addition} {name : String}
    (excluded : name ∈ Addition.excluded additions) (config : Config) (query : Q) :
    (engine.addAll additions).builder config query ≠ .error (.unknownScope name) := by
  obtain ⟨_, _, scopes_eq, eq_none⟩ := fresh_of_ofRequest? made
  rw [builder_eq]
  cases missing_eq : (engine.addAll additions).missingScope? query with
  | none => simp
  | some missing =>
      obtain ⟨⟨found, arguments⟩, active, rfl⟩ :=
        List.mem_map.mp (List.mem_of_find?_eq_some missing_eq)
      have activates := (mem_activeScopes_addAll_iff scopes_eq eq_none additions).mp active
      simp only [ne_eq, Except.error.injEq, Failure.unknownScope.injEq]
      rintro rfl
      exact activates.2 excluded

/-- After any earlier additions, further ones that agree lead to engines which build the same query
from every query, or fail alike, and have the same limit and offset, whatever the request is.  A
scope that is excluded anywhere is never applied: nothing changes if all its registrations are left
out, and the engine does not fail for it, though the query may not have it. -/
theorem addAll_confluent (made : ofRequest? policy request = .ok engine)
    (earlier : List Addition) {additions others : List Addition}
    (agree : Addition.Agree additions others) (config : Config) :
    let host := engine.addAll (earlier ++ additions)
    let otherHost := engine.addAll (earlier ++ others)
    (∀ (Q Row : Type) [Source Q Row] (query : Q),
      host.builder config query = otherHost.builder config query) ∧
      host.limit config = otherHost.limit config ∧
      host.offset = otherHost.offset ∧
      ∀ name ∈ Addition.excluded (earlier ++ additions),
        (∀ (Q Row : Type) [Source Q Row] (query : Q),
          host.builder config query =
            (engine.addAll ((earlier ++ additions).filter (!·.registers name))).builder config
              query) ∧
        ∀ (Q Row : Type) [Source Q Row] [LawfulSource Q Row] (query : Q),
          host.builder config query ≠ .error (.unknownScope name) := by
  intro host otherHost
  have same := (agree.append_left earlier).sameEffect
  refine ⟨fun Q Row _ query => builder_addAll_congr made same config query,
    limit_addAll_congr made same config, offset_addAll_congr made, ?_⟩
  intro name excluded
  constructor
  · intro Q Row _ query
    exact builder_addAll_congr made (Addition.sameEffect_filter_registers excluded) config query
  · intro Q Row _ _ query
    exact builder_ne_unknownScope made excluded config query

/-- The additions of `mixedAdditions` in another order, with other arguments and another largest
page that are replaced.  The scope that no query has is registered after its exclusion. -/
def shuffledAdditions : List Addition :=
  [.maxLimit 8, .withoutScope "missing", .scope "published" [.null], .scope "missing" [.null],
    .scope "published" [], .maxLimit 3, .callback [.notIn "status" ["draft"]],
    .scope "missing" [], .withoutScope "missing"]

theorem addAll_confluent_books :
    ∃ engine built, ofRequest? Catalogue.Books.policy leanRequest = .ok engine ∧
      Addition.Agree mixedAdditions shuffledAdditions ∧
      (engine.addAll ([.scope "published" [.bool true]] ++ mixedAdditions)).builder {} scopedBooks =
        .ok built ∧
      (engine.addAll ([.scope "published" [.bool true]] ++ shuffledAdditions)).builder {}
        scopedBooks = .ok built ∧
      Source.pagination built = (some 3, some 0) := by
  have made := ofRequest?_of_check Catalogue.Books.policy leanRequest rfl
  have agree : Addition.Agree mixedAdditions shuffledAdditions := by
    refine ⟨rfl, ?_, ?_, rfl⟩
    · intro name arguments
      have added_eq : Addition.scopes mixedAdditions =
          [("published", [.bool false]), ("missing", []), ("published", [])] := rfl
      have shuffled : Addition.scopes shuffledAdditions =
          [("published", [.null]), ("missing", [.null]), ("published", []), ("missing", [])] := rfl
      rw [← Bindings.last?_eq_some_iff, ← Bindings.last?_eq_some_iff, added_eq, shuffled]
      by_cases published : "published" = name
      · subst published
        rfl
      · by_cases missing_eq : "missing" = name <;> simp [Bindings.last?, published, missing_eq]
    · intro name
      have added_eq : Addition.excluded mixedAdditions = ["missing"] := rfl
      have shuffled : Addition.excluded shuffledAdditions = ["missing", "missing"] := rfl
      simp [added_eq, shuffled]
  have builders_eq :=
    (addAll_confluent made [.scope "published" [.bool true]] agree {}).1 Memory.Query Json
      scopedBooks
  refine ⟨_, _, made, agree, builder_eq_ok_iff.mpr ⟨by decide +kernel, rfl⟩, ?_, ?_⟩
  · exact builders_eq.symm.trans (builder_eq_ok_iff.mpr ⟨by decide +kernel, rfl⟩)
  · decide +kernel

end Engine

end Listing
