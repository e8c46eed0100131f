import Listing.Proofs.Effects
import Listing.Proofs.Text.WrittenPairs

/-!
# Lists carried by a request

A list of items is joined with commas, the text is written into the query string as the value of a
key, and the request hands out the pair from which the parameter takes the items again.  Which lists
arrive as they were sent is told by `Param.Listable`, and these are all the lists that there are
(`Param.normalized?_eq_list_iff`): the comma is the only character that an item cannot hold, and the
only other lists that cannot be sent are those whose text counts as no value.  The main statement is
`Param.lists_read_back`.
-/

namespace Listing

namespace Request

/-! ## Pieces of query strings -/

/-- The piece of a query string that a pair is written as. -/
def pieceOf (pair : String × String) : String :=
  String.ofList (Text.FormUrlencoded.encodePair (pair.1.toList, pair.2.toList))

/-- A query string as it may come in: question marks, and then pieces with separators between
them. -/
def queryOf (marks : Nat) (pieces : List String) : String :=
  String.ofList (List.replicate marks '?') ++ "&".intercalate pieces

theorem toList_queryOf (marks : Nat) (pieces : List String) :
    (queryOf marks pieces).toList =
      List.replicate marks '?' ++ Text.join '&' (pieces.map String.toList) := by
  rw [queryOf, String.toList_append, String.toList_ofList, String.toList_intercalate, Text.join_eq]
  rfl

theorem pairs_queryOf (pieces : List String) :
    (⟨some (queryOf 0 pieces)⟩ : Request).pairs =
      (Text.FormUrlencoded.parse (Text.join '&' (pieces.map String.toList))).map
        (Prod.map String.ofList String.ofList) := by
  simp only [pairs, toList_queryOf]
  rfl

/-- Question marks at the start are dropped before the pairs are read. -/
theorem pairs_ofRaw_queryOf (marks : Nat) (pieces : List String) :
    (ofRaw (some (queryOf marks pieces))).pairs =
      (Text.FormUrlencoded.parse
        ((Text.join '&' (pieces.map String.toList)).dropWhile (· == '?'))).map
          (Prod.map String.ofList String.ofList) := by
  have allMarks : ∀ c ∈ List.replicate marks '?', (c == '?') = true := by
    intro c c_mem
    rw [List.eq_of_mem_replicate c_mem]
    rfl
  rw [ofRaw, Option.map_some, pairs, toList_queryOf, List.dropWhile_append_of_pos allMarks]
  simp only [String.toList_ofList]
  rfl

/-- A written pair is read at its place: behind the pairs of the pieces before it and in front of
those of the pieces after it. -/
theorem pairs_queryOf_append (marks : Nat) (before after : List String) (pair : String × String) :
    (ofRaw (some (queryOf marks (before ++ pieceOf pair :: after)))).pairs =
      (ofRaw (some (queryOf marks before))).pairs ++
        pair :: (⟨some (queryOf 0 after)⟩ : Request).pairs := by
  have pieces_eq : (before ++ pieceOf pair :: after).map String.toList =
      before.map String.toList ++
        Text.FormUrlencoded.encodePair (pair.1.toList, pair.2.toList) ::
          after.map String.toList := by
    rw [List.map_append, List.map_cons, pieceOf, String.toList_ofList]
  rw [pairs_ofRaw_queryOf, pairs_ofRaw_queryOf, pairs_queryOf, pieces_eq,
    Text.FormUrlencoded.parse_dropWhile_join, List.map_append, List.map_cons]
  simp only [Prod.map, String.ofList_toList]

theorem pairs_queryOf_map (pairs : Pairs) :
    (⟨some (queryOf 0 (pairs.map pieceOf))⟩ : Request).pairs = pairs := by
  have pieces_eq : (pairs.map pieceOf).map String.toList =
      (pairs.map (Prod.map String.toList String.toList)).map Text.FormUrlencoded.encodePair := by
    simp only [List.map_map]
    exact List.map_congr_left fun pair _ => String.toList_ofList
  rw [pairs_queryOf, pieces_eq, ← Text.FormUrlencoded.serialize,
    Text.FormUrlencoded.parse_serialize, List.map_map]
  exact List.map_id'' (fun pair => by simp [Prod.map]) pairs

theorem pairs_ofRaw_queryOf_map (marks : Nat) (pairs : Pairs) :
    (ofRaw (some (queryOf marks (pairs.map pieceOf)))).pairs = pairs := by
  cases pairs with
  | nil =>
      rw [pairs_ofRaw_queryOf]
      rfl
  | cons pair rest =>
      rw [List.map_cons, ← List.nil_append (pieceOf pair :: _), pairs_queryOf_append,
        pairs_queryOf_map, pairs_ofRaw_queryOf]
      rfl

end Request

namespace Param

/-! ## Lists and their texts -/

/-- Lists that a text can carry: there is an item, no item has a comma, and the text is neither
empty nor `null`. -/
structure Listable (list : List String) : Prop where
  nonempty : list ≠ []
  comma : ∀ item ∈ list, ',' ∉ item.toList
  ne_empty : list ≠ [""]
  ne_null : list ≠ ["null"]

variable {list : List String}

theorem items_intercalate (nonempty : list ≠ []) (noComma : ∀ item ∈ list, ',' ∉ item.toList) :
    items (",".intercalate list) = list := by
  have allPieces : ∀ piece ∈ list.map String.toList, ',' ∉ piece := by
    intro piece piece_mem
    obtain ⟨item, item_mem, rfl⟩ := List.mem_map.mp piece_mem
    exact noComma item item_mem
  have split_eq : (",".intercalate list).toList.splitOn ',' = list.map String.toList := by
    rw [String.toList_intercalate]
    exact List.splitOn_intercalate ',' allPieces (by simpa using nonempty)
  rw [items, Text.splitOn_eq, listDelimiter, split_eq, List.map_map]
  exact List.map_id'' (fun _ => String.ofList_toList) list

theorem Listable.isValue (listable : Listable list) : IsValue (",".intercalate list) := by
  have items_eq := items_intercalate listable.nonempty listable.comma
  constructor
  · intro empty
    rw [empty] at items_eq
    exact listable.ne_empty items_eq.symm
  · intro null_eq
    rw [null_eq] at items_eq
    exact listable.ne_null (items_eq.symm.trans (by decide))

theorem listable_items {raw : String} (isValue : IsValue raw) : Listable (items raw) where
  nonempty := items_ne_nil raw
  comma _ item_mem := not_mem_of_mem_items item_mem
  ne_empty empty := by
    have display_eq := display_items raw
    rw [empty] at display_eq
    exact isValue.1 display_eq.symm
  ne_null null_eq := by
    have display_eq := display_items raw
    rw [null_eq] at display_eq
    exact isValue.2 display_eq.symm

theorem numeric?_ne_list (raw : String) : Value.numeric? raw ≠ some (.list list) := by
  rw [Value.numeric?]
  intro numeric_eq
  split at numeric_eq
  · cases numeric_eq
  · obtain ⟨x, _, x_eq⟩ := Option.map_eq_some_iff.mp numeric_eq
    cases x_eq

/-- Only the operators on lists make lists, and they make them of the items. -/
theorem normalize_eq_list_iff {operator : Operator} {raw : String} :
    normalize operator raw = some (.list list) ↔ operator.isList = true ∧ items raw = list := by
  cases operator with
  | anyOf | noneOf | hasAny | hasAll => simp [normalize, Operator.isList]
  | atLeast | atMost => simp [normalize, Operator.isList, numeric?_ne_list]
  | startsWith => by_cases blank : ' ' ∈ raw.toList <;> simp [normalize, Operator.isList, blank]
  | sort =>
      by_cases directed : raw = "asc" ∨ raw = "desc" <;> simp [normalize, Operator.isList, directed]
  | search => simp [normalize, Operator.isList]
  | custom =>
      by_cases isTrue : raw = "true" <;> by_cases isFalse : raw = "false" <;>
        simp [normalize, Operator.isList, isTrue, isFalse]

/-- The normal form of a parameter is a list exactly if the operator is one on lists, the list can
be carried and the text is the list joined by commas. -/
theorem normalized?_eq_list_iff {param : Param} :
    param.normalized? = some (.list list) ↔
      param.operator.isList = true ∧ Listable list ∧
        param.value = some (",".intercalate list) := by
  simp only [normalized?_eq_some_iff, normalize_eq_list_iff]
  constructor
  · rintro ⟨raw, value_eq, isValue, isList, rfl⟩
    refine ⟨isList, listable_items isValue, ?_⟩
    rw [value_eq]
    exact congrArg some (display_items raw).symm
  · rintro ⟨operator, isList, value_eq⟩
    exact ⟨_, value_eq, isList.isValue, operator, items_intercalate isList.nonempty isList.comma⟩

/-! ## From the list to the parameter -/

/-- A list that can be carried is read back by every operator on lists.  Written under any name of a
key of the operator, as the text of its items with commas, between any other pieces of a query
string and behind any number of question marks, the pair comes back at its place among the pairs of
the other pieces; written between other pairs, it comes back between these.  The parameter with its
text takes exactly the items of the list, in their order.  The other way round, every list that a
parameter takes has an item and no item with a comma, and is shown as the text of the parameter. -/
theorem lists_read_back :
    (∀ (name : String) (key : Key) (list : List String),
      Key.parse? name = some key → key.operator.isList = true → Listable list →
        (∀ (marks : Nat) (before after : List String),
          (Request.ofRaw (some (Request.queryOf marks
            (before ++ Request.pieceOf (name, ",".intercalate list) :: after)))).pairs =
              (Request.ofRaw (some (Request.queryOf marks before))).pairs ++
                (name, ",".intercalate list) ::
                  (Request.mk (some (Request.queryOf 0 after))).pairs) ∧
        (∀ (marks : Nat) (before after : Pairs),
          (Request.ofRaw (some (Request.queryOf marks
            ((before ++ (name, ",".intercalate list) :: after).map Request.pieceOf)))).pairs =
              before ++ (name, ",".intercalate list) :: after) ∧
        ∀ secondary : Option String,
          ((onField key.operator key.field (some (",".intercalate list))).withSecondary
            secondary).normalized? = some (.list list)) ∧
    ∀ (param : Param) (list : List String), param.normalized? = some (.list list) →
      param.operator.isList = true ∧ list ≠ [] ∧ (∀ item ∈ list, ',' ∉ item.toList) ∧
        param.value = some (Value.list list).display := by
  constructor
  · intro name key list _ operator listable
    refine ⟨fun marks before after => ?_, fun marks before after => ?_, fun secondary => ?_⟩
    · exact Request.pairs_queryOf_append marks before after _
    · exact Request.pairs_ofRaw_queryOf_map marks _
    · exact normalized?_eq_list_iff.mpr ⟨operator, listable, rfl⟩
  · intro param list normal
    obtain ⟨operator, listable, value_eq⟩ := normalized?_eq_list_iff.mp normal
    exact ⟨operator, listable.nonempty, listable.comma, value_eq⟩

/-- A list with an empty item, reserved characters, blanks at the ends, the word that counts as no
value and a character of four bytes, for a key of related rows with an accent. -/
theorem lists_read_back_tags :
    Key.parse? "where_has_all_tags__ä" = some ⟨.hasAll, "tags", some "ä"⟩ ∧
      Listable ["", "a&b=c", " 100%+ ", "null", "😀"] ∧
      (Request.ofRaw (some ("??=x&&limit=5%2&where_has_all_tags__%C3%A4=" ++
        "%2Ca%26b%3Dc%2C+100%25%2B+%2Cnull%2C%F0%9F%98%80&?pure"))).pairs =
          [("", "x"), ("limit", "5%2"), ("where_has_all_tags__ä", ",a&b=c, 100%+ ,null,😀"),
            ("?pure", "")] ∧
      normalized? ⟨.hasAll, .field "tags", some ",a&b=c, 100%+ ,null,😀", some "ä"⟩ =
        some (.list ["", "a&b=c", " 100%+ ", "null", "😀"]) ∧
      (Value.list ["", "a&b=c", " 100%+ ", "null", "😀"]).display = ",a&b=c, 100%+ ,null,😀" := by
  have parsed : Key.parse? "where_has_all_tags__ä" = some ⟨.hasAll, "tags", some "ä"⟩ := by
    decide +kernel
  have listable : Listable ["", "a&b=c", " 100%+ ", "null", "😀"] :=
    ⟨by decide, by decide +kernel, by decide, by decide⟩
  have query_eq : Request.queryOf 2 (["=x", "", "limit=5%2"] ++ Request.pieceOf
      ("where_has_all_tags__ä", ",".intercalate ["", "a&b=c", " 100%+ ", "null", "😀"]) ::
        ["?pure"]) = "??=x&&limit=5%2&where_has_all_tags__%C3%A4=" ++
          "%2Ca%26b%3Dc%2C+100%25%2B+%2Cnull%2C%F0%9F%98%80&?pure" := by
    decide +kernel
  have before_eq : (Request.ofRaw (some (Request.queryOf 2 ["=x", "", "limit=5%2"]))).pairs =
      [("", "x"), ("limit", "5%2")] := by
    decide +kernel
  have after_eq : (Request.mk (some (Request.queryOf 0 ["?pure"]))).pairs = [("?pure", "")] := by
    decide +kernel
  obtain ⟨allRead, _, normal⟩ := lists_read_back.1 _ _ _ parsed rfl listable
  obtain ⟨_, _, _, value_eq⟩ := lists_read_back.2 _ _ (normal (some "ä"))
  refine ⟨parsed, listable, ?_, normal (some "ä"), (Option.some.inj value_eq).symm⟩
  rw [← query_eq, allRead, before_eq, after_eq]
  rfl

end Param

end Listing
