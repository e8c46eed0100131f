import Listing.Operator
import Listing.Text.Split

/-!
# Parameter keys

A key is the keyword of an operator, an underscore and a field: `where_status`.  A doubled
underscore separates the field from a secondary field: `where_has_authors__role`.  The remainder of
a key that holds more than one doubled underscore is one field.
-/

namespace Listing

/-- The parts of a parameter key. -/
structure Key where
  operator : Operator
  field : String
  secondary : Option String
deriving DecidableEq

namespace Key

/-- Stands between the keyword and the field and, doubled, between the field and the secondary
field. -/
def delimiter : Char :=
  '_'

/-- The beginning of every key of an operator. -/
def beginning (operator : Operator) : List Char :=
  operator.keyword.toList ++ [delimiter]

/-- The key of an operator whose keyword and underscore the given characters follow. -/
def ofRemainder (operator : Operator) (remainder : List Char) : Key :=
  match Text.splitOnDouble delimiter remainder with
  | [field, secondary] => ⟨operator, String.ofList field, some (String.ofList secondary)⟩
  | _ => ⟨operator, String.ofList remainder, none⟩

/-- Reads a key.  The first operator of the list whose keyword starts the text counts. -/
def parse? (text : String) : Option Key :=
  Operator.all.findSome? fun operator =>
    (Text.after? (beginning operator) text.toList).map (ofRemainder operator)

/-- The part of a key after the keyword and its underscore. -/
def remainder (key : Key) : List Char :=
  match key.secondary with
  | none => key.field.toList
  | some secondary => key.field.toList ++ [delimiter, delimiter] ++ secondary.toList

/-- The text of a key. -/
def render (key : Key) : String :=
  String.ofList (beginning key.operator ++ key.remainder)

@[simp]
theorem ofRemainder_operator (operator : Operator) (remainder : List Char) :
    (ofRemainder operator remainder).operator = operator := by
  unfold ofRemainder
  split <;> rfl

/-- A text that is read as a key starts with the keyword of its operator and an underscore. -/
theorem exists_of_parse? {text : String} {key : Key} (parsed : parse? text = some key) :
    ∃ rest, text.toList = beginning key.operator ++ rest := by
  obtain ⟨operator, _, operator_eq⟩ := List.exists_of_findSome?_eq_some parsed
  obtain ⟨rest, rest_eq, rfl⟩ := Option.map_eq_some_iff.mp operator_eq
  rw [ofRemainder_operator]
  exact ⟨rest, Text.after?_eq_some_iff.mp rest_eq⟩

/-- A text is a key exactly if some keyword and an underscore start it. -/
theorem parse?_eq_none_iff {text : String} :
    parse? text = none ↔
      ∀ operator rest, text.toList ≠ beginning operator ++ rest := by
  simp only [parse?, List.findSome?_eq_none_iff, Operator.mem_all, true_implies,
    Option.map_eq_none_iff]
  constructor
  · intro never operator rest text_eq
    have := never operator
    simp [Text.after?_eq_some_iff.mpr text_eq] at this
  · intro never operator
    cases after_eq : Text.after? (beginning operator) text.toList with
    | none => rfl
    | some rest => exact absurd (Text.after?_eq_some_iff.mp after_eq) (never operator rest)

end Key

end Listing
