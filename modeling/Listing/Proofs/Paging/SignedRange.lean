import Listing.Proofs.Paging.Cap

/-!
# Pages and the range of signed words

Requests name limits and offsets as unsigned words, while the largest page is a signed word and an
absent limit is replaced by the largest signed word where an offset needs one.  An engine passes on
what the request asks for, so that a limit beyond the signed words reaches a selection exactly if
the request asks for it and no largest page applies, and an offset beyond them exactly if the
request asks for it (`Engine.selected_page`).
-/

namespace Listing

theorem Paging.NamesRows.le {raw : String} {rows : Nat} (namesRows : NamesRows raw rows) :
    rows ≤ Decimal.maxUnsigned := by
  obtain ⟨digits, _, _, _, _, _, _, fits⟩ := namesRows
  exact fits

namespace Engine

section

variable {engine : Engine} {config : Config} {query built : Sql.Query}

/-- The selection of a built query has the offset of the engine if it is positive, or else the one
that the host left. -/
theorem select_offset_of_builder (built_eq : engine.builder config query = .ok built) :
    built.select.offset =
      if 0 < engine.offset then some engine.offset
      else (engine.hosted config query).select.offset := by
  obtain ⟨_, rfl⟩ := builder_eq_ok_iff.mp built_eq
  rw [attemptAll_calls, closingCalls]
  cases engine.limit config with
  | none => exact Sql.Query.select_offset_setOffset ..
  | some rows => exact Sql.Query.select_offset_setOffset ..

/-- If the engine sets no limit, the selection has the one that the host left, or the unbounded one
with an offset. -/
theorem select_limit_of_none (limit_eq : engine.limit config = none)
    (built_eq : engine.builder config query = .ok built) :
    built.select.limit = some Sql.Query.unboundedLimit ∨
      built.select.limit = (engine.hosted config query).select.limit := by
  obtain ⟨_, rfl⟩ := builder_eq_ok_iff.mp built_eq
  rw [attemptAll_calls, closingCalls, limit_eq]
  have selected := (engine.hosted config query).select_limit_setOffset engine.offset
  split at selected
  · exact .inl selected
  · exact .inr selected

end

section

variable {policy : Policy} {request : Request} {engine : Engine} {additions : List Addition}
  {config : Config} {query built : Sql.Query}

/-- The limit of a selection is within the signed words if a largest page applies; else it is the
one that the request asks for, or if it asks for none, the unbounded one or the one that the host
left. -/
theorem select_limit_cases (made : ofRequest? policy request = .ok engine)
    (signed : policy.largestPage additions config ≤ Decimal.maxSigned)
    (built_eq : (engine.addAll additions).builder config query = .ok built) {rows : Nat}
    (rows_eq : built.select.limit = some rows) :
    rows ≤ Sql.Query.unboundedLimit ∨
      policy.largestPage additions config ≤ 0 ∧
        (request.pairs.AsksLimit rows ∨
          (∀ wanted, ¬request.pairs.AsksLimit wanted) ∧
            ((engine.addAll additions).hosted config query).select.limit = some rows) := by
  rcases Int.lt_or_le 0 (policy.largestPage additions config) with capped | uncapped
  · left
    obtain ⟨largest, limit_eq, _, le, _⟩ := exists_limit_of_pos made capped
    obtain rfl : largest = rows :=
      Option.some.inj ((selected_of_limit limit_eq built_eq).symm.trans rows_eq)
    exact (Int.le_toNat (by decide)).mpr (le.trans signed)
  · have limit_eq : (engine.addAll additions).limit config =
        (Paging.ofPairs request.pairs).limit := by
      rw [limit_of_nonpos ((effectiveMax_addAll made additions config).trans_le uncapped),
        paging_addAll made]
    cases asked : (Paging.ofPairs request.pairs).limit with
    | some wanted =>
        obtain rfl : wanted = rows :=
          Option.some.inj ((selected_of_limit (limit_eq.trans asked) built_eq).symm.trans rows_eq)
        exact .inr ⟨uncapped, .inl (Paging.limit_ofPairs_eq_some_iff.mp asked)⟩
    | none =>
        rcases select_limit_of_none (limit_eq.trans asked) built_eq with unbounded | hosted
        · left
          exact (Option.some.inj (rows_eq.symm.trans unbounded)).le
        · right
          exact ⟨uncapped, .inr ⟨Paging.limit_ofPairs_eq_none_iff.mp asked, hosted ▸ rows_eq⟩⟩

/-- The offset of a selection is the positive one that the request asks for, or if it asks for none,
the one that the host left. -/
theorem select_offset_cases (made : ofRequest? policy request = .ok engine)
    (built_eq : (engine.addAll additions).builder config query = .ok built) {rows : Nat}
    (rows_eq : built.select.offset = some rows) :
    request.pairs.AsksOffset rows ∧ 0 < rows ∨
      (∀ wanted, request.pairs.AsksOffset wanted → wanted = 0) ∧
        ((engine.addAll additions).hosted config query).select.offset = some rows := by
  rw [select_offset_of_builder built_eq, offset, paging_addAll made] at rows_eq
  cases asked : (Paging.ofPairs request.pairs).offset with
  | none =>
      rw [asked, Option.getD_none, if_neg (Nat.lt_irrefl 0)] at rows_eq
      refine .inr ⟨fun wanted asks => ?_, rows_eq⟩
      rw [Paging.offset_ofPairs_eq_some_iff.mpr asks] at asked
      cases asked
  | some wanted =>
      have asks := Paging.offset_ofPairs_eq_some_iff.mp asked
      rw [asked, Option.getD_some] at rows_eq
      split at rows_eq
      · rename_i positive
        obtain rfl := Option.some.inj rows_eq
        exact .inl ⟨asks, positive⟩
      · rename_i notZero
        refine .inr ⟨fun other otherAsksOffset => ?_, rows_eq⟩
        rw [Paging.offset_ofPairs_eq_some_iff.mpr otherAsksOffset, Option.some.injEq] at asked
        exact asked.trans (Nat.eq_zero_of_not_pos notZero)

/-- Where the page of a selection comes from, and how large its numbers are.  The limit is a signed
word, unless no largest page applies and the request asks for a larger one or the host left one; the
offset is the positive one that the request asks for, or the one that the host left.  What the
request asks for is passed on as it is, up to the largest unsigned word. -/
theorem selected_page (made : ofRequest? policy request = .ok engine)
    (signed : policy.largestPage additions config ≤ Decimal.maxSigned)
    (built_eq : (engine.addAll additions).builder config query = .ok built) :
    let hosted := (engine.addAll additions).hosted config query
    let largest := policy.largestPage additions config
    (∀ rows, built.select.limit = some rows →
      rows ≤ Sql.Query.unboundedLimit ∨
        largest ≤ 0 ∧
          (request.pairs.AsksLimit rows ∨
            (∀ wanted, ¬request.pairs.AsksLimit wanted) ∧ hosted.select.limit = some rows)) ∧
    (∀ rows, built.select.offset = some rows →
      request.pairs.AsksOffset rows ∧ 0 < rows ∨
        (∀ wanted, request.pairs.AsksOffset wanted → wanted = 0) ∧
          hosted.select.offset = some rows) ∧
    (largest ≤ 0 → ∀ rows, request.pairs.AsksLimit rows → built.select.limit = some rows) ∧
    (∀ rows, 0 < rows → request.pairs.AsksOffset rows → built.select.offset = some rows) ∧
    ∀ rows, request.pairs.AsksLimit rows ∨ request.pairs.AsksOffset rows →
      rows ≤ Decimal.maxUnsigned := by
  refine ⟨fun rows => select_limit_cases made signed built_eq,
    fun rows => select_offset_cases made built_eq, ?_, ?_, ?_⟩
  · intro uncapped rows asks
    have largest_le := (effectiveMax_addAll made additions config).trans_le uncapped
    apply selected_of_limit _ built_eq
    rw [limit_of_nonpos largest_le, paging_addAll made, Paging.limit_ofPairs_eq_some_iff.mpr asks]
  · intro rows positive asks
    rw [select_offset_of_builder built_eq, offset, paging_addAll made,
      Paging.offset_ofPairs_eq_some_iff.mpr asks, Option.getD_some, if_pos positive]
  · rintro rows (⟨raw, _, namesRows, _⟩ | ⟨raw, _, namesRows⟩)
    · exact namesRows.le
    · exact namesRows.le

end

/-- A request for the largest unsigned word as limit and the smallest one as offset that is no
signed word. -/
def hugeRequest : Request :=
  ⟨some "limit=18446744073709551615&offset=9223372036854775808"⟩

/-- The engine for it. -/
def hugeEngine : Engine :=
  { policy := .basic, request := hugeRequest, params := [],
    paging := ⟨some 18446744073709551615, some 9223372036854775808, none⟩ }

theorem ofRequest?_hugeRequest : ofRequest? .basic hugeRequest = .ok hugeEngine := by
  have pairs_eq : hugeRequest.pairs =
      [("limit", "18446744073709551615"), ("offset", "9223372036854775808")] := by
    decide +kernel
  have paging_eq : Paging.ofPairs
      [("limit", "18446744073709551615"), ("offset", "9223372036854775808")] =
        ⟨some 18446744073709551615, some 9223372036854775808, none⟩ := by
    decide +kernel
  rw [ofRequest?_of_check _ _ rfl, pairs_eq, paging_eq]
  rfl

theorem selected_page_huge :
    ofRequest? .basic hugeRequest = .ok hugeEngine ∧
      ∃ built, (hugeEngine.addAll []).builder {}
          (Catalogue.Books.query ⟨.sqlite, .ok none, .ok []⟩) = .ok built ∧
        (∀ rows, built.select.limit = some rows → rows ≤ Sql.Query.unboundedLimit) ∧
        built.select.offset = some 9223372036854775808 := by
  let query := Catalogue.Books.query ⟨.sqlite, .ok none, .ok []⟩
  have built_eq : (hugeEngine.addAll []).builder {} query =
      .ok (Source.attemptAll query ((hugeEngine.addAll []).calls {})) :=
    builder_eq_ok_iff.mpr ⟨by decide, rfl⟩
  have asks : hugeRequest.pairs.AsksOffset 9223372036854775808 :=
    Paging.offset_ofPairs_eq_some_iff.mp (by decide +kernel)
  obtain ⟨allLimit, _, _, allOffset, _⟩ := selected_page ofRequest?_hugeRequest (by decide) built_eq
  refine ⟨ofRequest?_hugeRequest, _, built_eq, ?_, allOffset _ (by decide) asks⟩
  intro rows rows_eq
  rcases allLimit rows rows_eq with le | ⟨uncapped, _⟩
  · exact le
  · exact absurd uncapped (by decide)

/-- Without a largest page both numbers reach the selection, and neither is a signed word. -/
theorem not_signed_page :
    ofRequest? .basic hugeRequest = .ok hugeEngine ∧
      ∃ built, (hugeEngine.addAll [.maxLimit 0]).builder {}
          (Catalogue.Books.query ⟨.sqlite, .ok none, .ok []⟩) = .ok built ∧
        built.select.limit = some 18446744073709551615 ∧
        built.select.offset = some 9223372036854775808 ∧
        ¬∀ rows, built.select.limit = some rows ∨ built.select.offset = some rows →
          rows ≤ Sql.Query.unboundedLimit := by
  let query := Catalogue.Books.query ⟨.sqlite, .ok none, .ok []⟩
  let built := Source.attemptAll query ((hugeEngine.addAll [.maxLimit 0]).calls {})
  have limit_eq : built.select.limit = some 18446744073709551615 := by decide +kernel
  have offset_eq : built.select.offset = some 9223372036854775808 := by decide +kernel
  refine ⟨ofRequest?_hugeRequest, built, builder_eq_ok_iff.mpr ⟨by decide, rfl⟩, limit_eq,
    offset_eq, ?_⟩
  intro signed
  exact absurd (signed _ (.inl limit_eq)) (by decide)

end Engine

end Listing
