/-!
# Reading numerals

Whole numbers are read from an optional sign and decimal digits, and are refused if they do not fit
the range of the machine word they are meant for.  Other numbers are read from the usual decimal
notation, with or without a point and an exponent, and rounded to the nearest float.
-/

namespace Listing.Decimal

/-- The number written by a list of decimal digits. -/
def valueOf (digits : List Char) : Nat :=
  digits.foldl (fun value digit => 10 * value + (digit.toNat - '0'.toNat)) 0

/-- The number written by a text of decimal digits, at least one. -/
def natural? (text : List Char) : Option Nat :=
  if text.isEmpty || !text.all Char.isDigit then none else some (valueOf text)

theorem ne_of_isDigit {c other : Char} (digit : c.isDigit) (other_false : other.isDigit = false) :
    c ≠ other := by
  rintro rfl
  simp [digit] at other_false

theorem isDigit_of_mem_toString {n : Nat} {c : Char} (c_mem : c ∈ (toString n).toList) :
    c.isDigit := by
  rw [Nat.toString_eq_repr, Nat.toList_repr] at c_mem
  exact Nat.isDigit_of_mem_toDigits (by decide) (by decide) c_mem

/-- The largest unsigned word of 64 bits. -/
def maxUnsigned : Nat :=
  18446744073709551615

/-- The largest signed word of 64 bits. -/
def maxSigned : Int :=
  9223372036854775807

/-- The smallest signed word of 64 bits. -/
def minSigned : Int :=
  -9223372036854775808

/-- Reads an unsigned word; a plus sign may stand in front, a minus sign may not. -/
def unsigned? (text : List Char) : Option Nat :=
  let digits :=
    match text with
    | '+' :: rest => rest
    | _ => text
  (natural? digits).filter (· ≤ maxUnsigned)

/-- Reads a signed word. -/
def signed? (text : List Char) : Option Int :=
  let value : Option Int :=
    match text with
    | '+' :: rest => (natural? rest).map Int.ofNat
    | '-' :: rest => (natural? rest).map fun n => -(n : Int)
    | _ => (natural? text).map Int.ofNat
  value.filter fun n => minSigned ≤ n && n ≤ maxSigned

/-! ## Floats -/

/-- The float nearest to `digits * 10 ^ exponent`; beyond the range it is infinite or zero. -/
def nearest (digits : Nat) (exponent : Int) : Float :=
  let length : Int := (Nat.toDigits 10 digits).length
  if digits = 0 ∨ exponent + length < -400 then 0
  else if exponent + length > 400 then 1 / 0
  else Float.ofScientific digits (exponent < 0) exponent.natAbs

/-- Reads an optional sign; the flag says whether it is a minus sign. -/
def readSign : List Char → Bool × List Char
  | '-' :: rest => (true, rest)
  | '+' :: rest => (false, rest)
  | text => (false, text)

/-- Reads the exponent part at the end of a numeral, if there is one. -/
def exponent? : List Char → Option Int
  | [] => some 0
  | mark :: rest =>
      if mark = 'e' ∨ mark = 'E' then
        let (negative, digits) := readSign rest
        (natural? digits).map fun n => if negative then -(n : Int) else (n : Int)
      else none

/-- Reads a numeral without a sign: digits with at most one point, at least one digit in all, and
an optional exponent. -/
def magnitude? (text : List Char) : Option Float :=
  let whole := text.takeWhile Char.isDigit
  let afterWhole := text.dropWhile Char.isDigit
  let (fraction, rest) :=
    match afterWhole with
    | '.' :: more => (more.takeWhile Char.isDigit, more.dropWhile Char.isDigit)
    | _ => ([], afterWhole)
  if whole.isEmpty && fraction.isEmpty then none
  else (exponent? rest).map fun exponent =>
    nearest (valueOf (whole ++ fraction)) (exponent - fraction.length)

/-- Reads a finite float.  The names of the infinities and of the undefined number are numerals of
no finite number, and neither is a numeral too large to be rounded to one. -/
def finite? (text : List Char) : Option Float :=
  let (negative, body) := readSign text
  ((magnitude? body).filter Float.isFinite).map fun x => if negative then -x else x

end Listing.Decimal
