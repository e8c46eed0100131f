import Listing.Call
import Listing.Json.Printer
import Listing.Memory.Pattern

/-!
# Rows held in memory

A row is a JSON object; its relations are fields that hold lists of objects.  Fields are compared as
texts where a list of items or a pattern is given, and as numbers where a bound is given.  A field
that is missing or null has no text, and one that is no number lies within no bound.
-/

namespace Listing.Memory

/-- A stored row: its fields in ascending order of their names. -/
abbrev Row : Type :=
  List (String × Json)

namespace Row

/-- The text of a value; null has none.  Anything but a text is shown as JSON. -/
def text? : Option Json → Option String
  | none | some .null => none
  | some (.string s) => some s
  | some other => some other.compress

/-- The value of a field as a number, undefined if it is none. -/
def number (row : Row) (field : String) : Float :=
  ((row.lookup field).bind Json.asFloat?).getD (0 / 0)

/-- A bound as a number, undefined if it is none. -/
def bound : Value → Float
  | .integer n => Float.ofInt n
  | .float x => x
  | _ => 0 / 0

/-- The text of a field. -/
def fieldText? (row : Row) (field : String) : Option String :=
  text? (row.lookup field)

/-- The related rows that a field holds. -/
def related (row : Row) (relation : String) : List Row :=
  match row.lookup relation with
  | some (.array items) =>
      items.filterMap fun
        | .object fields => some fields
        | _ => none
  | _ => []

/-- Whether the field of a row has one of the given texts. -/
def hasText (row : Row) (field : String) (items : List String) : Bool :=
  match row.fieldText? field with
  | some text => items.contains text
  | none => false

/-- The value that a scope asks for: its first argument, or true without arguments. -/
def expected (arguments : List Json) : Json :=
  arguments.head?.getD (.bool true)

/-- Whether a row meets the condition that a call adds.  Scopes are given with the columns they
look at. -/
def meets (scopes : List (String × String)) (row : Row) : Call → Bool
  | .atLeast field value => decide (bound value ≤ row.number field)
  | .atMost field value => decide (row.number field ≤ bound value)
  | .like field pattern _ =>
      match row.fieldText? field with
      | some text => Pattern.accepts pattern.toList text.toList
      | none => false
  | .isIn field items => row.hasText field items
  | .notIn field items => !row.hasText field items
  | .hasIn relation field items => (row.related relation).any (·.hasText field items)
  | .hasEq relation field item => (row.related relation).any (·.fieldText? field == some item)
  | .applyScope name arguments =>
      match scopes.lookup name with
      | none => false
      | some column =>
          match row.lookup column with
          | none => false
          | some value => value.same (expected arguments)
  | _ => true

/-! ## Order -/

/-- Compares two optional texts; an absent one comes first. -/
def compareTexts : Option String → Option String → Ordering
  | none, none => .eq
  | none, some _ => .lt
  | some _, none => .gt
  | some s, some t => if s < t then .lt else if s = t then .eq else .gt

/-- Compares two numbers; an undefined one is equal to all. -/
def compareNumbers (x y : Float) : Ordering :=
  if x < y then .lt else if y < x then .gt else .eq

/-- Compares two values: as numbers if both are numbers, and otherwise as texts. -/
def compareValues (a b : Option Json) : Ordering :=
  match a.bind Json.asFloat?, b.bind Json.asFloat? with
  | some x, some y => compareNumbers x y
  | _, _ => compareTexts (text? a) (text? b)

/-- Compares two rows by one field. -/
def compareBy (field : String) (direction : Direction) (row other : Row) : Ordering :=
  let ordering := compareValues (row.lookup field) (other.lookup field)
  match direction with
  | .ascending => ordering
  | .descending => ordering.swap

/-- Compares two rows by several fields, the first of which counts most. -/
def compareByAll : List (String × Direction) → Row → Row → Ordering
  | [], _, _ => .eq
  | (field, direction) :: rest, row, other =>
      (compareBy field direction row other).then (compareByAll rest row other)

end Row

end Listing.Memory
