import Listing.Decimal.Numeral
import Listing.Json.Basic

/-!
# Tokens of JSON text

Text is read from the left and the first fault ends the reading.  Three kinds of fault are told
apart: text that ends too early, text that no JSON value can continue, and a value of another shape
than the one asked for.  Tokens are read strictly where their value counts; a value that is passed
over is checked for its form only.
-/

namespace Listing.Json

/-- Why reading stopped. -/
inductive Fault where
  /-- The text is well formed so far but holds another value than the one asked for. -/
  | mismatch
  /-- No JSON value goes on like this. -/
  | malformed
  /-- The text ends inside a value. -/
  | truncated
deriving DecidableEq

/-- Reads something from the start of a text and returns it with the rest. -/
abbrev Scan (α : Type) : Type :=
  List Char → Except Fault (α × List Char)

/-- The text without leading blanks; only four characters are blank in JSON. -/
def skipBlanks (text : List Char) : List Char :=
  text.dropWhile fun c => c == ' ' || c == '\n' || c == '\t' || c == '\r'

/-- Reads the given characters. -/
def expect : List Char → Scan Unit
  | [], text => .ok ((), text)
  | _ :: _, [] => .error .truncated
  | e :: expected, c :: text => if e = c then expect expected text else .error .malformed

/-! ## Strings -/

/-- The value of a hexadecimal digit. -/
def hexValue? (c : Char) : Option Nat :=
  if '0' ≤ c ∧ c ≤ '9' then some (c.toNat - '0'.toNat)
  else if 'a' ≤ c ∧ c ≤ 'f' then some (c.toNat - 'a'.toNat + 10)
  else if 'A' ≤ c ∧ c ≤ 'F' then some (c.toNat - 'A'.toNat + 10)
  else none

/-- Reads the four digits of an escape.  The text is truncated if fewer than four bytes are left,
whatever they are. -/
def hexEscape (text : List Char) : Except Fault Nat :=
  if (text.take 4).foldl (fun size c => size + c.utf8Size) 0 < 4 then .error .truncated
  else
    match (text.take 4).mapM hexValue? with
    | some [a, b, c, d] => .ok (((a * 16 + b) * 16 + c) * 16 + d)
    | _ => .error .malformed

/-- The character of a one-letter escape. -/
def simpleEscape? : Char → Option Char
  | '"' => some '"'
  | '\\' => some '\\'
  | '/' => some '/'
  | 'b' => some (Char.ofNat 0x08)
  | 'f' => some (Char.ofNat 0x0C)
  | 'n' => some '\n'
  | 'r' => some '\r'
  | 't' => some '\t'
  | _ => none

/-- Reads an escape after its backslash.  A code unit of the upper surrogates has to be followed by
the escape of one of the lower, and the two are one character. -/
def escaped (strict : Bool) : List Char → Except Fault (Char × List Char)
  | [] => .error .truncated
  | 'u' :: rest => do
      let first ← hexEscape rest
      let rest := rest.drop 4
      if !strict then return (' ', rest)
      else if first < 0xD800 ∨ 0xDFFF < first then return (Char.ofNat first, rest)
      else if 0xDC00 ≤ first then throw .malformed
      else
        match rest with
        | [] => throw .truncated
        | '\\' :: [] => throw .truncated
        | '\\' :: 'u' :: more =>
            let second ← hexEscape more
            if second < 0xDC00 ∨ 0xDFFF < second then throw .malformed
            else
              return (Char.ofNat ((first - 0xD800) * 0x400 + (second - 0xDC00) + 0x10000),
                more.drop 4)
        | _ => throw .malformed
  | c :: rest =>
      match simpleEscape? c with
      | some character => .ok (character, rest)
      | none => .error .malformed

/-- Reads a string after its opening quote, with at most as many characters as the fuel allows. -/
def stringAux (strict : Bool) : Nat → Scan (List Char)
  | 0, _ => .error .truncated
  | _ + 1, [] => .error .truncated
  | fuel + 1, c :: rest =>
      if c = '"' then .ok ([], rest)
      else if c = '\\' then do
        let (character, rest) ← escaped strict rest
        let (characters, rest) ← stringAux strict fuel rest
        return (character :: characters, rest)
      else if c.toNat < 0x20 then .error .malformed
      else do
        let (characters, rest) ← stringAux strict fuel rest
        return (c :: characters, rest)

/-- Reads a string after its opening quote. -/
def stringBody (strict : Bool) : Scan String := fun text => do
  let (characters, rest) ← stringAux strict (text.length + 1) text
  return (String.ofList characters, rest)

/-! ## Numbers -/

/-- The parts of a numeral. -/
structure Numeral where
  negative : Bool
  whole : List Char
  fraction : Option (List Char)
  /-- The sign of the exponent, true for a minus sign, and its digits. -/
  exponent : Option (Bool × List Char)

/-- Reads the digits that some part of a numeral needs; where its value counts, a text that ends
here is truncated. -/
def neededDigits (strict : Bool) (text : List Char) : Except Fault (List Char × List Char) :=
  match text with
  | [] => .error (if strict then .truncated else .malformed)
  | c :: _ =>
      if c.isDigit then .ok (text.takeWhile Char.isDigit, text.dropWhile Char.isDigit)
      else .error .malformed

/-- Reads a numeral after its sign. -/
def numeral (strict negative : Bool) : Scan Numeral := fun text => do
  let (whole, rest) ← neededDigits strict text
  if whole.head? == some '0' && whole.length != 1 then throw .malformed
  let (fraction, rest) ←
    match rest with
    | '.' :: more => do
        let (digits, rest) ← neededDigits strict more
        pure (some digits, rest)
    | _ => pure (none, rest)
  let (exponent, rest) ←
    match rest with
    | mark :: more =>
        if mark = 'e' ∨ mark = 'E' then do
          let (minus, more) := Decimal.readSign more
          let (digits, rest) ← neededDigits strict more
          pure (some (minus, digits), rest)
        else pure (none, rest)
    | [] => pure (none, rest)
  return (⟨negative, whole, fraction, exponent⟩, rest)

/-- Takes up whole digits as long as the significand fits an unsigned word; every later digit only
raises the exponent. -/
def takeWhole : Nat × Int → List Char → Nat × Int
  | state, [] => state
  | (significand, exponent), digit :: rest =>
      let next := 10 * significand + (digit.toNat - '0'.toNat)
      if exponent = 0 ∧ next ≤ Decimal.maxUnsigned then takeWhole (next, 0) rest
      else takeWhole (significand, exponent + 1) rest

/-- Takes up digits after the point as long as the significand fits an unsigned word; later digits
are dropped. -/
def takeFraction : Nat × Int → List Char → Nat × Int
  | state, [] => state
  | (significand, exponent), digit :: rest =>
      let next := 10 * significand + (digit.toNat - '0'.toNat)
      if next ≤ Decimal.maxUnsigned then takeFraction (next, exponent - 1) rest
      else (significand, exponent)

/-- A float scaled by a power of ten in as few steps as possible, each of which rounds. -/
def scaled? (x : Float) (exponent : Int) : Except Fault Float :=
  if 308 < exponent then if x == 0 then .ok x else .error .malformed
  else if 0 ≤ exponent then
    let product := x * Float.ofScientific 1 false exponent.toNat
    if product.isFinite then .ok product else .error .malformed
  else if -308 ≤ exponent then .ok (x / Float.ofScientific 1 false exponent.natAbs)
  else if x == 0 then .ok x
  else scaled? (x / Float.ofScientific 1 false 308) (exponent + 308)
  termination_by exponent.natAbs

/-- The largest exponent that is taken up; beyond it the number is zero or out of range. -/
def maxExponent : Nat :=
  2147483647

/-- The value of a numeral: a whole number if it is written without point and exponent and fits a
machine word, a float otherwise.  Numerals beyond the range of floats are malformed. -/
def Numeral.value? (numeral : Numeral) : Except Fault Number := do
  let signed := fun (x : Float) => if numeral.negative then -x else x
  let whole := Decimal.valueOf numeral.whole
  if numeral.fraction.isNone && numeral.exponent.isNone && whole ≤ Decimal.maxUnsigned then
    if !numeral.negative then return .integer whole
    else if whole = 0 ∨ Decimal.minSigned.natAbs < whole then return .float (-(Float.ofNat whole))
    else return .integer (-(whole : Int))
  else
    let (significand, exponent) :=
      takeFraction (takeWhole (0, 0) numeral.whole) (numeral.fraction.getD [])
    let written : Int :=
      match numeral.exponent with
      | none => 0
      | some (minus, digits) =>
          if minus then -(Decimal.valueOf digits : Int) else Decimal.valueOf digits
    if maxExponent < written.natAbs then
      if significand ≠ 0 ∧ 0 ≤ written then throw .malformed else return .float (signed 0)
    else
      let x ← scaled? (Float.ofNat significand) (exponent + written)
      return .float (signed x)

/-- Reads a number, its sign included.  A number that is passed over has no value. -/
def scanNumber (strict : Bool) : Scan Number := fun text => do
  let (negative, text) :=
    match text with
    | '-' :: rest => (true, rest)
    | _ => (false, text)
  let (numeral, rest) ← numeral strict negative text
  if strict then
    let value ← numeral.value?
    return (value, rest)
  else return (.integer 0, rest)

end Listing.Json
