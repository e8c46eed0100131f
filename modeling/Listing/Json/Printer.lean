import Listing.Decimal.Layout
import Listing.Json.Basic

/-!
# JSON text

Values are written without blanks and in the order in which they hold their items and fields.
-/

namespace Listing.Json

/-- Floats are written without an exponent if their leading digit stands between the fifth place
after the point and the sixteenth before it, and whole floats then show a point. -/
def floatLayout : Decimal.Layout where
  tie := .toEven
  isPositional := fun leading => -5 ≤ leading && leading ≤ 15
  pointZero := true

/-- The text of a number.  There is none for what is not finite, which is written as null. -/
def Number.compact : Number → List Char
  | .integer n => (toString n).toList
  | .float x => if x.isFinite then floatLayout.render x else "null".toList

/-- Two hexadecimal digits of a number below 256. -/
def hexPair (n : Nat) : List Char :=
  [Nat.digitChar (n / 16), Nat.digitChar (n % 16)]

/-- The written form of a character inside a string. -/
def escape (c : Char) : List Char :=
  if c = '"' ∨ c = '\\' then ['\\', c]
  else if c.toNat = 0x08 then ['\\', 'b']
  else if c.toNat = 0x09 then ['\\', 't']
  else if c.toNat = 0x0A then ['\\', 'n']
  else if c.toNat = 0x0C then ['\\', 'f']
  else if c.toNat = 0x0D then ['\\', 'r']
  else if c.toNat < 0x20 then ['\\', 'u', '0', '0'] ++ hexPair c.toNat
  else [c]

/-- The text of a string. -/
def compactString (s : String) : List Char :=
  '"' :: s.toList.flatMap escape ++ ['"']

mutual

/-- The text of a value. -/
def compact : Json → List Char
  | .null => "null".toList
  | .bool true => "true".toList
  | .bool false => "false".toList
  | .number n => n.compact
  | .string s => compactString s
  | .array items => '[' :: compactItems items ++ [']']
  | .object fields => Char.ofNat 0x7B :: compactFields fields ++ [Char.ofNat 0x7D]

/-- The texts of items with commas between them. -/
def compactItems : List Json → List Char
  | [] => []
  | [item] => compact item
  | item :: next :: rest => compact item ++ ',' :: compactItems (next :: rest)

/-- The texts of fields with commas between them. -/
def compactFields : List (String × Json) → List Char
  | [] => []
  | [(name, value)] => compactString name ++ ':' :: compact value
  | (name, value) :: next :: rest =>
      compactString name ++ ':' :: compact value ++ ',' :: compactFields (next :: rest)

end

/-- The text of a value as a string. -/
def compress (value : Json) : String :=
  String.ofList value.compact

end Listing.Json
