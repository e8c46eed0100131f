import Listing.Uri
import Listing.Proofs.Rejection
import Listing.Proofs.Text.FormUrlencoded

/-!
# Requests read from a target

The query of a request target can be taken as it stands (`Uri.request`), or as a handler takes it,
who drops all question marks at its start (`Uri.extracted`).  Only the first question mark of a
target separates path and query; another one right after it belongs to the query.  Read as it
stands, it comes to the front of the first name, so that both ways agree exactly on the targets
without one (`Uri.readAlike_iff`).
-/

namespace Listing

/-- Two requests are read alike: they have the same pairs, give the same value for every name, have
the same names and ask for the same page, and under every policy the same parameters are kept of
them and every query is built in the same way. -/
structure Request.ReadAlike (request otherRequest : Request) : Prop where
  pairs : request.pairs = otherRequest.pairs
  input : ∀ name, request.pairs.input? name = otherRequest.pairs.input? name
  has : ∀ name, request.pairs.has name = otherRequest.pairs.has name
  paging : Paging.ofPairs request.pairs = Paging.ofPairs otherRequest.pairs
  params : ∀ policy, (Engine.ofRequest? policy request).map Engine.params =
    (Engine.ofRequest? policy otherRequest).map Engine.params
  built : ∀ (Q Row : Type) [Source Q Row] (policy : Policy) (additions : List Addition)
    (config : Config) (query : Q),
      Engine.built policy additions config query request =
        Engine.built policy additions config query otherRequest

namespace Request

variable {request otherRequest : Request}

/-- Nothing but its pairs is read of a request. -/
theorem readAlike_iff_pairs :
    request.ReadAlike otherRequest ↔ request.pairs = otherRequest.pairs := by
  constructor
  · exact ReadAlike.pairs
  · intro pairs_eq
    constructor
    · exact pairs_eq
    · intro name
      rw [pairs_eq]
    · intro name
      rw [pairs_eq]
    · rw [pairs_eq]
    · intro policy
      simp only [Engine.ofRequest?, pairs_eq]
      cases policy.check <;> rfl
    · intro Q Row _ policy additions config query
      apply Engine.built_congr
      · rw [pairs_eq]
      · rw [pairs_eq]

/-- Without the question marks at its start a query string has the same pairs exactly if there are
none. -/
theorem pairs_ofRaw_eq_iff (query : String) :
    (ofRaw (some query)).pairs = (⟨some query⟩ : Request).pairs ↔
      query.toList.head? ≠ some '?' := by
  have injective : Function.Injective (Prod.map String.ofList String.ofList) :=
    Function.Injective.prodMap (fun _ _ name_eq => String.ofList_injective name_eq)
      fun _ _ value_eq => String.ofList_injective value_eq
  calc (ofRaw (some query)).pairs = (⟨some query⟩ : Request).pairs
    _ ↔ Text.FormUrlencoded.parse (query.toList.dropWhile (· == '?')) =
          Text.FormUrlencoded.parse query.toList := by
        simp only [ofRaw, Option.map_some, pairs, String.toList_ofList]
        exact (List.map_injective_iff.mpr injective).eq_iff
    _ ↔ query.toList.head? ≠ some '?' :=
        Text.FormUrlencoded.parse_dropWhile_eq_iff rfl (by decide) (by decide) query.toList

end Request

namespace Uri

/-- A handler reads a target like the target itself exactly if the query does not start with a
question mark. -/
theorem readAlike_iff (uri : Uri) :
    uri.extracted.ReadAlike uri.request ↔
      ∀ query, uri.query = some query → query.toList.head? ≠ some '?' := by
  rw [Request.readAlike_iff_pairs, extracted, request]
  cases uri.query with
  | none => exact iff_of_true rfl (by rintro query ⟨⟩)
  | some query =>
      rw [Request.pairs_ofRaw_eq_iff]
      constructor
      · rintro head_ne _ ⟨⟩
        exact head_ne
      · intro allMarked
        exact allMarked query rfl

/-- A doubled question mark: the handler reads a limit where the target itself has another name. -/
theorem not_readAlike_doubled_mark :
    ∃ uri, parse? "/books??limit=5" = some uri ∧
      uri.extracted.pairs = [("limit", "5")] ∧ uri.request.pairs = [("?limit", "5")] ∧
      (Paging.ofPairs uri.extracted.pairs).limit = some 5 ∧
      (Paging.ofPairs uri.request.pairs).limit = none ∧ ¬uri.extracted.ReadAlike uri.request := by
  have extracted_eq : (extracted ⟨"/books", some "?limit=5"⟩).pairs = [("limit", "5")] := by
    decide +kernel
  have request_eq : (request ⟨"/books", some "?limit=5"⟩).pairs = [("?limit", "5")] := by
    decide +kernel
  refine ⟨⟨"/books", some "?limit=5"⟩, by decide +kernel, extracted_eq, request_eq, ?_, ?_, ?_⟩
  · rw [extracted_eq]
    decide +kernel
  · rw [request_eq]
    decide +kernel
  · intro alike
    have pairs_eq := alike.pairs
    rw [extracted_eq, request_eq] at pairs_eq
    exact absurd pairs_eq (by decide)

end Uri

end Listing
