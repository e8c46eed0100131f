import Listing.Policy
import Listing.Proofs.Paging.Numeral
import Listing.Proofs.Text.FormUrlencoded

/-!
# Requests for one page after another

`Request.withPage` appends a limit and an offset to the query string of a request.  The pairs of the
request stay as they are and the two numbers come after them (`Request.pairs_withPage`), so that
they are the ones that count, as far as they fit an unsigned word.  The parameters that a policy
keeps do not change.
-/

namespace Listing

/-! ## Requests for a page -/

namespace Request

/-- The request for a page of the rows of a request. -/
def withPage (request : Request) (limit offset : Nat) : Request :=
  ⟨some (request.query.getD "" ++ "&" ++ Paging.limitName ++ "=" ++ toString limit ++
    "&" ++ Paging.offsetName ++ "=" ++ toString offset)⟩

end Request

namespace Text.FormUrlencoded

theorem isVerbatim_of_isDigit {c : Char} (digit : c.isDigit) : isVerbatim c := by
  refine isVerbatim_iff.mpr ⟨?_, Decimal.ne_of_isDigit digit rfl, Decimal.ne_of_isDigit digit rfl⟩
  simp only [Char.isDigit, Bool.and_eq_true, decide_eq_true_eq, UInt32.le_iff_toNat_le] at digit
  exact Nat.lt_of_le_of_lt digit.2 (by decide)

theorem parse_number {name : List Char} (name_true : name.all isVerbatim)
    (noSeparator : '&' ∉ name) (noEquals : '=' ∉ name) (n : Nat) :
    parse (name ++ '=' :: (toString n).toList) = [(name, (toString n).toList)] := by
  have value : (toString n).toList.all isVerbatim :=
    List.all_eq_true.mpr fun c c_mem =>
      isVerbatim_of_isDigit (Decimal.isDigit_of_mem_toString c_mem)
  refine parse_verbatim name_true value ?_ noEquals
  intro mem
  rw [List.mem_append, List.mem_cons] at mem
  rcases mem with mem | mem | mem
  · exact noSeparator mem
  · cases mem
  · cases Decimal.isDigit_of_mem_toString mem

end Text.FormUrlencoded

namespace Request

open Text.FormUrlencoded (parse_append_cons parse_number)

/-- The pairs of the request for a page are those of the request with the page after them. -/
theorem pairs_withPage (request : Request) (limit offset : Nat) :
    (request.withPage limit offset).pairs =
      request.pairs ++
        [(Paging.limitName, toString limit), (Paging.offsetName, toString offset)] := by
  have query_eq : (request.withPage limit offset).pairs =
      (Text.FormUrlencoded.parse ((request.query.getD "").toList ++
        '&' :: (Paging.limitName.toList ++ '=' :: (toString limit).toList ++
          '&' :: (Paging.offsetName.toList ++ '=' :: (toString offset).toList)))).map
            fun pair => (String.ofList pair.1, String.ofList pair.2) := by
    simp [pairs, withPage]
  have limit_eq : Text.FormUrlencoded.parse
      (Paging.limitName.toList ++ '=' :: (toString limit).toList) =
        [(Paging.limitName.toList, (toString limit).toList)] :=
    parse_number (by decide) (by decide) (by decide) limit
  have offset_eq : Text.FormUrlencoded.parse
      (Paging.offsetName.toList ++ '=' :: (toString offset).toList) =
        [(Paging.offsetName.toList, (toString offset).toList)] :=
    parse_number (by decide) (by decide) (by decide) offset
  have request_eq : request.pairs = (Text.FormUrlencoded.parse (request.query.getD "").toList).map
      fun pair => (String.ofList pair.1, String.ofList pair.2) := by
    rw [pairs]
    cases request.query with
    | none => rfl
    | some query => rfl
  rw [query_eq, parse_append_cons, parse_append_cons, limit_eq, offset_eq, List.map_append,
    ← request_eq]
  simp only [List.cons_append, List.nil_append, List.map_cons, List.map_nil, String.ofList_toList]

end Request

namespace Decimal

theorem isUnsigned_toString {n : Nat} (fits : n ≤ maxUnsigned) :
    IsUnsigned (toString n).toList n := by
  obtain ⟨ne, allDigits, value_eq⟩ := natural?_eq_some_iff.mp (natural?_toString n)
  exact ⟨_, .inl rfl, ne, allDigits, value_eq, fits⟩

end Decimal

theorem Pairs.input?_eq_none {pairs : Pairs} {name : String} (absent : pairs.has name = false) :
    pairs.input? name = none := by
  refine Bindings.last?_eq_none_iff.mpr fun value pair_mem => ?_
  have never := List.any_eq_false.mp absent _ pair_mem
  simp at never

namespace Paging

theorem namesRows_toString {rows : Nat} (fits : rows ≤ Decimal.maxUnsigned) :
    NamesRows (toString rows) rows :=
  ⟨_, ⟨[], [], by simp, by simp, by simp⟩, Decimal.isUnsigned_toString fits⟩

/-- The page that is asked for is the one of the request, if its numbers fit an unsigned word. -/
theorem ofPairs_withPage (request : Request) {limit offset : Nat} (positive : 0 < limit)
    (limit_le : limit ≤ Decimal.maxUnsigned) (offset_le : offset ≤ Decimal.maxUnsigned) :
    (ofPairs (request.withPage limit offset).pairs).limit = some limit ∧
      (ofPairs (request.withPage limit offset).pairs).offset = some offset := by
  rw [Request.pairs_withPage]
  constructor
  · refine limit_ofPairs_eq_some_iff.mpr ⟨_, ?_, namesRows_toString limit_le, positive⟩
    exact ⟨request.pairs, [(offsetName, toString offset)], rfl, by simp [offsetName, limitName]⟩
  · refine offset_ofPairs_eq_some_iff.mpr ⟨_, ?_, namesRows_toString offset_le⟩
    exact ⟨request.pairs ++ [(limitName, toString limit)], [], by simp, by simp⟩

end Paging

theorem Request.has_pure_withPage (request : Request) (limit offset : Nat) :
    (request.withPage limit offset).pairs.has Paging.pureName =
      request.pairs.has Paging.pureName := by
  rw [pairs_withPage, Pairs.has, List.any_append, Pairs.has]
  exact Bool.or_false _

theorem Policy.keepAll_withPage (policy : Policy) (request : Request) (limit offset : Nat) :
    policy.keepAll (request.withPage limit offset).pairs = policy.keepAll request.pairs := by
  have limit_eq : policy.keep? (Paging.limitName, toString limit) = none :=
    policy.keep?_of_parse?_eq_none (by decide +kernel) _
  have offset_eq : policy.keep? (Paging.offsetName, toString offset) = none :=
    policy.keep?_of_parse?_eq_none (by decide +kernel) _
  rw [Request.pairs_withPage, keepAll, List.filterMap_append, List.filterMap_cons_none limit_eq,
    List.filterMap_cons_none offset_eq, List.filterMap_nil, List.append_nil, keepAll]

end Listing
