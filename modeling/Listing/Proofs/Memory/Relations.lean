import Listing.Proofs.Insertion
import Listing.Proofs.Memory.Search

/-!
# Related objects of rows held in memory

Both operators on related rows read a list of items.  One wants a related object with some of the
items in its field, the other wants one for each item, and these may be different objects.  The main
statement, `Engine.relations_keep`, says so for stored rows and draws the conclusions: the second
operator keeps no row that the first one drops, and items can be given to it in one list or in
several.
-/

namespace Listing

namespace Param

theorem items_join (raw other : String) :
    items (raw ++ "," ++ other) = items raw ++ items other := by
  have joined : (raw ++ "," ++ other).toList = raw.toList ++ ',' :: other.toList := by
    simp [String.toList_append]
  rw [items, joined, listDelimiter, Text.splitOn_append_cons, List.map_append, items, items]
  rfl

theorem isValue_join (raw other : String) : IsValue (raw ++ "," ++ other) := by
  have comma_mem : ',' ∈ (raw ++ "," ++ other).toList := by simp [String.toList_append]
  constructor <;>
    · intro raw_eq
      rw [raw_eq] at comma_mem
      exact absurd comma_mem (by decide)

end Param

namespace Memory.Row

variable {row : Row} {relation field text : String}

/-- Among the objects that a row holds for a relation there is one whose field has the given
text. -/
def Relates (row : Row) (relation field text : String) : Prop :=
  ∃ values other, row.lookup relation = some (.array values) ∧ Json.object other ∈ values ∧
    fieldText? other field = some text

theorem mem_related_iff {other : Row} :
    other ∈ row.related relation ↔
      ∃ values, row.lookup relation = some (.array values) ∧ Json.object other ∈ values := by
  rw [related]
  constructor
  · intro other_mem
    split at other_mem
    · next values values_eq =>
        refine ⟨values, values_eq, ?_⟩
        rcases List.mem_filterMap.mp other_mem with ⟨value, value_mem, fields_eq⟩
        cases value with
        | object fields => exact Option.some.inj fields_eq ▸ value_mem
        | _ => cases fields_eq
    · cases other_mem
  · rintro ⟨values, values_eq, other_mem⟩
    rw [values_eq]
    exact List.mem_filterMap.mpr ⟨_, other_mem, rfl⟩

theorem relates_iff :
    row.Relates relation field text ↔
      ∃ other ∈ row.related relation, fieldText? other field = some text := by
  constructor
  · rintro ⟨values, other, values_eq, other_mem, text_eq⟩
    exact ⟨other, mem_related_iff.mpr ⟨values, values_eq, other_mem⟩, text_eq⟩
  · rintro ⟨other, other_mem, text_eq⟩
    rcases mem_related_iff.mp other_mem with ⟨values, values_eq, object_mem⟩
    exact ⟨values, other, values_eq, object_mem, text_eq⟩

instance (row : Row) (relation field text : String) :
    Decidable (row.Relates relation field text) :=
  decidable_of_iff _ relates_iff.symm

theorem meets_hasIn_iff {items : List String} (scopes : List (String × String)) :
    row.meets scopes (.hasIn relation field items) = true ↔
      ∃ item ∈ items, row.Relates relation field item := by
  simp only [meets, List.any_eq_true, hasText, relates_iff]
  constructor
  · rintro ⟨other, other_mem, text_true⟩
    split at text_true
    · next text field_eq =>
        exact ⟨text, List.contains_iff_mem.mp text_true, other, other_mem, field_eq⟩
    · cases text_true
  · rintro ⟨item, item_mem, other, other_mem, field_eq⟩
    refine ⟨other, other_mem, ?_⟩
    rw [field_eq]
    exact List.contains_iff_mem.mpr item_mem

theorem meets_hasEq_iff (scopes : List (String × String)) :
    row.meets scopes (.hasEq relation field text) = true ↔ row.Relates relation field text := by
  simp only [meets, List.any_eq_true, beq_iff_eq, relates_iff]

end Memory.Row

namespace Engine

variable {policy : Policy} {request otherRequest : Request} {name relation field raw : String}
  {additions : List Addition} {config : Config} {query listed : Memory.Query}

/-- A relation and a field that are listed for an operator on related rows can be used as they
are. -/
theorem usableSecondary?_of_offers {operator : Operator}
    (offers : policy.Offers name ⟨operator, relation, some field⟩)
    (relational : operator.isRelational = true) (raw : String) :
    (Param.ofKey ⟨operator, relation, some field⟩ raw).usableSecondary? = some field := by
  cases offers.lists with
  | field plain => simp [relational] at plain
  | relation _ _ _ _ nonempty => simp [Param.ofKey, Param.usableSecondary?, nonempty]

/-- The operator for some of the items keeps the rows that are related to one of them. -/
theorem matching_built_hasAny (offers : policy.Offers name ⟨.hasAny, relation, some field⟩)
    (isValue : Param.IsValue raw)
    (pairs_perm : otherRequest.pairs.Perm ((name, raw) :: request.pairs))
    (listed_eq : built policy additions config query request = .ok listed) :
    ∃ found, built policy additions config query otherRequest = .ok found ∧
      found.matching = listed.matching.filter fun row =>
        decide (∃ item ∈ Param.items raw, row.Relates relation field item) := by
  have makes : Param.Makes config.likeOperator relation .hasAny
      (Param.ofKey ⟨.hasAny, relation, some field⟩ raw).usableSecondary?
      (.list (Param.items raw)) [.hasIn relation field (Param.items raw)] := by
    rw [usableSecondary?_of_offers offers rfl]
    exact .hasAny field _
  exact matching_built_single offers (by simp) isValue rfl makes
    (fun row => Memory.Row.meets_hasIn_iff query.scopes) pairs_perm listed_eq

/-- The operator for all items keeps the rows that are related to each of them, whatever lists they
are given in. -/
theorem matching_built_hasAll (offers : policy.Offers name ⟨.hasAll, relation, some field⟩)
    {raws : List String} (allRaws : ∀ raw ∈ raws, Param.IsValue raw)
    (pairs_perm : otherRequest.pairs.Perm (raws.map (name, ·) ++ request.pairs))
    (listed_eq : built policy additions config query request = .ok listed) :
    ∃ found, built policy additions config query otherRequest = .ok found ∧
      found.matching = listed.matching.filter fun row =>
        decide (∀ item ∈ raws.flatMap Param.items, row.Relates relation field item) := by
  have allMade : ∀ given ∈ raws, ∃ value, Param.normalize .hasAll given = some value ∧
      Param.Makes config.likeOperator relation .hasAll
        (Param.ofKey ⟨.hasAll, relation, some field⟩ given).usableSecondary? value
        ((Param.items given).map (.hasEq relation field)) := by
    intro given _
    rw [usableSecondary?_of_offers offers rfl]
    exact ⟨_, rfl, .hasAll field _⟩
  rcases matching_built_offered offers (by simp) allRaws _ allMade pairs_perm listed_eq with
    ⟨found, found_eq, matching⟩
  refine ⟨found, found_eq, matching.trans (List.filter_congr fun row _ => ?_)⟩
  rw [← List.all_flatMap, Bool.eq_iff_iff, decide_eq_true_iff, List.all_eq_true]
  simp only [List.mem_flatMap, List.mem_map, forall_exists_index, and_imp]
  constructor
  · intro meets item given given_mem item_mem
    exact (Memory.Row.meets_hasEq_iff query.scopes).mp (meets _ given given_mem item item_mem rfl)
  · rintro relates _ given given_mem item item_mem rfl
    exact (Memory.Row.meets_hasEq_iff query.scopes).mpr (relates item given given_mem item_mem)

/-- Over rows held in memory, with built-in operators on a listed relation and field and a value
that is a list of items.  The operator for some of the items keeps exactly the rows with a related
object whose field has one of the items for its text, and the operator for all items keeps exactly
the rows that have such an object for each of the items.  So the latter keeps no row that the former
drops, and both keep the same rows if all items are equal.  Two lists that are joined keep the rows
that satisfy both of them, which are those that are kept if the lists are given one by one, in
either order. -/
theorem relations_keep {other : String} (isValue : Param.IsValue raw)
    (otherIsValue : Param.IsValue other)
    (listed_eq : built policy additions config query request = .ok listed) :
    (∀ (anyName : String) (anyRequest : Request),
      policy.Offers anyName ⟨.hasAny, relation, some field⟩ →
      anyRequest.pairs.Perm ((anyName, raw) :: request.pairs) →
        ∃ found, built policy additions config query anyRequest = .ok found ∧
          found.matching = listed.matching.filter fun row =>
            decide (∃ item ∈ Param.items raw, row.Relates relation field item)) ∧
      (∀ (allName : String) (allRequest : Request),
        policy.Offers allName ⟨.hasAll, relation, some field⟩ →
        allRequest.pairs.Perm ((allName, raw) :: request.pairs) →
          ∃ found, built policy additions config query allRequest = .ok found ∧
            found.matching = listed.matching.filter fun row =>
              decide (∀ item ∈ Param.items raw, row.Relates relation field item)) ∧
      (∀ (anyName allName : String) (anyRequest allRequest : Request),
        policy.Offers anyName ⟨.hasAny, relation, some field⟩ →
        policy.Offers allName ⟨.hasAll, relation, some field⟩ →
        anyRequest.pairs.Perm ((anyName, raw) :: request.pairs) →
        allRequest.pairs.Perm ((allName, raw) :: request.pairs) →
          ∃ wide narrow, built policy additions config query anyRequest = .ok wide ∧
            built policy additions config query allRequest = .ok narrow ∧
            narrow.matching.Sublist wide.matching ∧
            ((∀ item ∈ Param.items raw, ∀ next ∈ Param.items raw, item = next) →
              narrow.matching = wide.matching)) ∧
      ∀ (allName : String) (joinedRequest singleRequest : Request),
        policy.Offers allName ⟨.hasAll, relation, some field⟩ →
        joinedRequest.pairs.Perm ((allName, raw ++ "," ++ other) :: request.pairs) →
        singleRequest.pairs.Perm ((allName, raw) :: (allName, other) :: request.pairs) →
          ∃ joined single, built policy additions config query joinedRequest = .ok joined ∧
            built policy additions config query singleRequest = .ok single ∧
            joined.matching = single.matching ∧
            joined.matching = listed.matching.filter fun row =>
              decide ((∀ item ∈ Param.items raw, row.Relates relation field item) ∧
                ∀ item ∈ Param.items other, row.Relates relation field item) := by
  have ensured : ∀ {anyName : String} {anyRequest : Request},
      policy.Offers anyName ⟨.hasAny, relation, some field⟩ →
      anyRequest.pairs.Perm ((anyName, raw) :: request.pairs) →
        ∃ found, built policy additions config query anyRequest = .ok found ∧
          found.matching = listed.matching.filter fun row =>
            decide (∃ item ∈ Param.items raw, row.Relates relation field item) :=
    fun offers pairs_perm => matching_built_hasAny offers isValue pairs_perm listed_eq
  have all : ∀ {allName : String} {allRequest : Request},
      policy.Offers allName ⟨.hasAll, relation, some field⟩ →
      allRequest.pairs.Perm ((allName, raw) :: request.pairs) →
        ∃ found, built policy additions config query allRequest = .ok found ∧
          found.matching = listed.matching.filter fun row =>
            decide (∀ item ∈ Param.items raw, row.Relates relation field item) := by
    intro allName allRequest offers pairs_perm
    simpa only [List.flatMap_singleton] using
      matching_built_hasAll offers (List.forall_mem_singleton.mpr isValue) pairs_perm listed_eq
  refine ⟨fun _ _ => ensured, fun _ _ => all, ?_, ?_⟩
  · intro anyName allName anyRequest allRequest offersAny offersAll any allPairs_perm
    rcases ensured offersAny any with ⟨wide, wide_eq, keptWide_eq⟩
    rcases all offersAll allPairs_perm with ⟨narrow, narrow_eq, keptNarrow_eq⟩
    rcases List.exists_mem_of_ne_nil _ (Param.items_ne_nil raw) with ⟨first, first_mem⟩
    refine ⟨wide, narrow, wide_eq, narrow_eq, ?_, ?_⟩
    · rw [keptWide_eq, keptNarrow_eq]
      apply List.monotone_filter_right
      intro row relates
      rw [decide_eq_true_iff] at relates ⊢
      exact ⟨first, first_mem, relates first first_mem⟩
    · intro allEqual
      rw [keptWide_eq, keptNarrow_eq]
      apply List.filter_congr
      intro row _
      rw [decide_eq_decide]
      constructor
      · exact fun relates => ⟨first, first_mem, relates first first_mem⟩
      · rintro ⟨item, item_mem, relates⟩ next next_mem
        exact allEqual item item_mem next next_mem ▸ relates
  · intro allName joinedRequest singleRequest offers joinedPairs_perm singlePairs_perm
    have allValues : ∀ given ∈ [raw, other], Param.IsValue given := by
      simp only [List.mem_cons, List.not_mem_nil, or_false]
      rintro given (rfl | rfl)
      · exact isValue
      · exact otherIsValue
    rcases matching_built_hasAll offers
      (List.forall_mem_singleton.mpr (Param.isValue_join raw other)) joinedPairs_perm listed_eq with
      ⟨joined, joined_eq, keptJoined_eq⟩
    rcases matching_built_hasAll offers allValues singlePairs_perm listed_eq with
      ⟨single, single_eq, keptSingle_eq⟩
    simp only [List.flatMap_cons, List.flatMap_nil, List.append_nil, Param.items_join,
      List.forall_mem_append] at keptJoined_eq keptSingle_eq
    exact ⟨joined, single, joined_eq, single_eq, keptJoined_eq.trans keptSingle_eq.symm,
      keptJoined_eq⟩

/-- Published books with one of two tags. -/
def someTagRequest : Request :=
  ⟨some "where_has_tags__name=rust%2Csystems&where_status=published"⟩

/-- Published books with both of them. -/
def allTagsRequest : Request :=
  ⟨some "where_status=published&where_has_all_tags__name=rust%2Csystems"⟩

theorem relations_keep_books :
    ∃ listed wide narrow,
      built Catalogue.Books.policy [] {} storedBooks listedRequest = .ok listed ∧
      built Catalogue.Books.policy [] {} storedBooks someTagRequest = .ok wide ∧
      built Catalogue.Books.policy [] {} storedBooks allTagsRequest = .ok narrow ∧
      listed.matching.length = 3 ∧ wide.matching = Catalogue.Books.stored.take 2 ∧
      narrow.matching = Catalogue.Books.stored.take 1 ∧ narrow.matching.Sublist wide.matching := by
  have pairs_eq : listedRequest.pairs = [("where_status", "published")] := by decide +kernel
  have some_eq : someTagRequest.pairs =
      [("where_has_tags__name", "rust,systems"), ("where_status", "published")] := by
    decide +kernel
  have all : allTagsRequest.pairs =
      [("where_status", "published"), ("where_has_all_tags__name", "rust,systems")] := by
    decide +kernel
  have allBuiltIn : ∀ (operator : Operator) run, operator ≠ .anyOf →
      ((operator, Registry.token "tags"), run) ∉ Catalogue.Books.policy.registry.overrides := by
    intro operator run operator_fact registered
    obtain ⟨key_eq, _⟩ := Prod.mk.inj (List.mem_singleton.mp registered)
    exact operator_fact (Prod.mk.inj key_eq).1
  have isLast : Bindings.IsLast "tags" ["name"] [("tags", ["name"]), ("authors", ["role"])] :=
    ⟨[], [("authors", ["role"])], rfl, by decide⟩
  have offersAny : Catalogue.Books.policy.Offers "where_has_tags__name"
      ⟨.hasAny, "tags", some "name"⟩ :=
    { reads := by decide +kernel
      operator_ne := by decide
      builtIn := fun run => allBuiltIn .hasAny run (by decide)
      lists := .relation rfl rfl isLast (List.mem_singleton_self _) (by decide) }
  have offersAll : Catalogue.Books.policy.Offers "where_has_all_tags__name"
      ⟨.hasAll, "tags", some "name"⟩ :=
    { reads := by decide +kernel
      operator_ne := by decide
      builtIn := fun run => allBuiltIn .hasAll run (by decide)
      lists := .relation rfl rfl isLast (List.mem_singleton_self _) (by decide) }
  have anyPairs_perm : someTagRequest.pairs.Perm
      (("where_has_tags__name", "rust,systems") :: listedRequest.pairs) := by
    rw [pairs_eq, some_eq]
  have allPairs_perm : allTagsRequest.pairs.Perm
      (("where_has_all_tags__name", "rust,systems") :: listedRequest.pairs) := by
    rw [pairs_eq, all]
    exact List.Perm.swap ..
  have isValue : Param.IsValue "rust,systems" := ⟨by decide, by decide⟩
  obtain ⟨listed, listed_eq, published⟩ := exists_built_listedRequest
  obtain ⟨any, every, both, _⟩ :=
    @relations_keep _ _ "tags" "name" _ _ _ _ _ _ isValue isValue listed_eq
  obtain ⟨wide, narrow, wide_eq, narrow_eq, sublist, _⟩ :=
    both _ _ _ _ offersAny offersAll anyPairs_perm allPairs_perm
  obtain ⟨_, found_eq, kept⟩ := any _ _ offersAny anyPairs_perm
  obtain ⟨_, foundAll_eq, keptAll_eq⟩ := every _ _ offersAll allPairs_perm
  cases wide_eq.symm.trans found_eq
  cases narrow_eq.symm.trans foundAll_eq
  refine ⟨listed, wide, narrow, listed_eq, wide_eq, narrow_eq, ?_, ?_, ?_, sublist⟩
  · rw [published]
    rfl
  · rw [kept, published]
    rfl
  · rw [keptAll_eq, published]
    rfl

end Engine

end Listing
