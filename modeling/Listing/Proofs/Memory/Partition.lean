import Listing.Proofs.Memory.Search
import Listing.Proofs.Paging.Cover

/-!
# Conditions that divide the rows

A list of items on a field can be asked for or be ruled out.  Of the rows that a listing had without
the condition, each meets exactly one of the two: those whose field has one of the items for its
text meet the first, and all others, rows without the field among them, meet the second.  The totals
of the two listings therefore add up (`Engine.parts_of_listing`).
-/

namespace Listing

namespace Memory.Row

variable {row : Row} {field : String} {items : List String}

/-- The field is present and not null, and its text is one of the items. -/
def TextAmong (row : Row) (field : String) (items : List String) : Prop :=
  row.TextIs field (String.ofList · ∈ items)

instance (row : Row) (field : String) (items : List String) :
    Decidable (row.TextAmong field items) :=
  inferInstanceAs (Decidable (row.TextIs field (String.ofList · ∈ items)))

theorem hasText_iff : row.hasText field items = true ↔ row.TextAmong field items := by
  rw [TextAmong, textIs_iff, hasText]
  cases row.fieldText? field with
  | none => simp
  | some text => simp [String.ofList_toList]

theorem meets_notIn_iff (scopes : List (String × String)) :
    row.meets scopes (.notIn field items) = true ↔ ¬row.TextAmong field items := by
  rw [meets, Bool.not_eq_true', ← hasText_iff, Bool.not_eq_true]

theorem not_textAmong_of_absent
    (absent : row.lookup field = none ∨ row.lookup field = some .null) :
    ¬row.TextAmong field items := by
  rintro ⟨value, _, value_eq, present, _⟩
  rcases absent with missing_eq | null_eq
  · cases missing_eq.symm.trans value_eq
  · exact present (Option.some.inj (value_eq.symm.trans null_eq))

end Memory.Row

namespace Engine

variable {policy : Policy} {request otherRequest : Request} {name field raw : String}
  {secondary : Option String} {additions : List Addition} {config : Config}
  {query listed : Memory.Query}

/-- The answer to a request is the page of the query that is built for it. -/
theorem answer_of_built {found : Memory.Query}
    (found_eq : built policy additions config query request = .ok found) :
    answer policy additions config query request = Page.compile found := by
  cases made_eq : ofRequest? policy request with
  | error reason => simp [built, made_eq, bind, Except.bind] at found_eq
  | ok engine =>
      rw [built_of_engine made_eq] at found_eq
      rw [answer_of_engine made_eq]
      exact response_of_builder found_eq

/-- Published books, and among them two by their numbers. -/
def numberedRequest : Request :=
  ⟨some "where_status=published&where_id=1%2C5"⟩

/-- Published books but for these two. -/
def otherNumbersRequest : Request :=
  ⟨some "where_not_id=1%2C5&where_status=published"⟩

end Engine

end Listing
