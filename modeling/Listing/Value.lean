import Listing.Decimal.Layout
import Listing.Decimal.Numeral
import Listing.Json.Basic
import Listing.Text.Blank

/-!
# Filter values

The text of a request parameter becomes a value: a truth value, a number, a text or a list of
texts.  Which of them it becomes depends on the operator; `scalar` is the loose reading that takes
numbers and truth values wherever a text looks like one.
-/

namespace Listing

/-- A value that rows are compared with. -/
inductive Value where
  | bool (b : Bool)
  | integer (n : Int)
  | float (x : Float)
  | text (s : String)
  | list (items : List String)
deriving Inhabited

namespace Value

/-- The text, if the value is one. -/
def asText? : Value → Option String
  | text s => some s
  | _ => none

/-- The items, if the value is a list. -/
def asList? : Value → Option (List String)
  | list items => some items
  | _ => none

/-- Reads a number, blanks around it left aside: a whole number if it fits a signed word, and
otherwise a finite float. -/
def numeric? (raw : String) : Option Value :=
  let trimmed := Text.trim raw.toList
  match Decimal.signed? trimmed with
  | some n => some (integer n)
  | none => (Decimal.finite? trimmed).map float

/-- The loose reading of a text: a truth value or a number if it is written as one. -/
def scalar (raw : String) : Value :=
  if raw = "true" then bool true
  else if raw = "false" then bool false
  else (numeric? raw).getD (text raw)

/-- Floats are shown with the fewest digits that identify them and never with an exponent; a whole
number shows no point. -/
def floatLayout : Decimal.Layout where
  tie := .up
  isPositional := fun _ => true
  pointZero := false

/-- The shown form of a float. -/
def displayFloat (x : Float) : String :=
  if x.isNaN then "NaN"
  else if x.isInf then if x < 0 then "-inf" else "inf"
  else String.ofList (floatLayout.render x)

/-- The shown form of a truth value. -/
def displayBool (b : Bool) : String :=
  if b then "true" else "false"

/-- The shown form of a value; items of a list are separated by commas. -/
def display : Value → String
  | bool b => displayBool b
  | integer n => toString n
  | float x => displayFloat x
  | text s => s
  | list items => String.intercalate "," items

/-- The value as JSON, without a mark of its kind. -/
def toJson : Value → Json
  | bool b => .bool b
  | integer n => .number (.integer n)
  | float x => if x.isFinite then .number (.float x) else .null
  | text s => .string s
  | list items => .array (items.map .string)

end Value

end Listing
