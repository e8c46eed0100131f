/-!
# JSON values

Values keep apart what their texts keep apart: a number is a whole number of a machine word or a
float, and the two are never equal.  The fields of an object that was read from text stand in
ascending order of their names, each name once.
-/

namespace Listing

/-- A number of a JSON value. -/
inductive Json.Number where
  | integer (n : Int)
  | float (x : Float)
deriving Inhabited

/-- A JSON value. -/
inductive Json where
  | null
  | bool (b : Bool)
  | number (n : Json.Number)
  | string (s : String)
  | array (items : List Json)
  | object (fields : List (String × Json))
deriving Inhabited

namespace Json

/-- The number as a float. -/
def Number.toFloat : Number → Float
  | .integer n => Float.ofInt n
  | .float x => x

/-- Equality of numbers; whole numbers and floats differ. -/
def Number.same : Number → Number → Bool
  | .integer m, .integer n => m == n
  | .float x, .float y => x == y
  | _, _ => false

mutual

/-- Equality of values. -/
def same : Json → Json → Bool
  | .null, .null => true
  | .bool a, .bool b => a == b
  | .number m, .number n => m.same n
  | .string s, .string t => s == t
  | .array xs, .array ys => sameItems xs ys
  | .object fs, .object gs => sameFields fs gs
  | _, _ => false

/-- Equality of lists of values. -/
def sameItems : List Json → List Json → Bool
  | [], [] => true
  | x :: xs, y :: ys => same x y && sameItems xs ys
  | _, _ => false

/-- Equality of lists of fields. -/
def sameFields : List (String × Json) → List (String × Json) → Bool
  | [], [] => true
  | (f, x) :: xs, (g, y) :: ys => f == g && same x y && sameFields xs ys
  | _, _ => false

end

/-- Sets a field among fields in ascending order, in place of one of the same name. -/
def setField (name : String) (value : Json) : List (String × Json) → List (String × Json)
  | [] => [(name, value)]
  | (other, old) :: rest =>
      if name < other then (name, value) :: (other, old) :: rest
      else if name = other then (name, value) :: rest
      else (other, old) :: setField name value rest

/-- An object with the given fields in ascending order; of fields with one name the last counts. -/
def ofFields (fields : List (String × Json)) : Json :=
  .object (fields.foldl (fun sorted field => setField field.1 field.2 sorted) [])

/-- The value of a field, if the value is an object that has it. -/
def field? (name : String) : Json → Option Json
  | .object fields => fields.lookup name
  | _ => none

/-- The number of a value as a float. -/
def asFloat? : Json → Option Float
  | .number n => some n.toFloat
  | _ => none

/-- A whole number as a value. -/
def ofInt (n : Int) : Json :=
  .number (.integer n)

/-- A natural number as a value. -/
def ofNat (n : Nat) : Json :=
  .number (.integer n)

/-- An optional value, absent as null. -/
def ofOption {α : Type} (encode : α → Json) : Option α → Json
  | none => .null
  | some a => encode a

end Json

end Listing
