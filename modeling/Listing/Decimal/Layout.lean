import Listing.Decimal.Shortest

/-!
# Written decimals

How the digits of a number are set: where the point stands, when an exponent is written instead,
and whether a whole number shows a point.  A layout holds these decisions; a value type that is
written out names one layout.
-/

namespace Listing.Decimal

/-- The decisions of one way of writing floats. -/
structure Layout where
  /-- Which of two equally near decimals is written. -/
  tie : Tie
  /-- The exponents of the leading digit for which the number is written without an exponent. -/
  isPositional : Int → Bool
  /-- Whether a whole number is written with `.0`. -/
  pointZero : Bool

/-- The digits of a natural number. -/
def digitsOf (n : Nat) : List Char :=
  Nat.toDigits 10 n

/-- A decimal written without an exponent. -/
def positional (pointZero : Bool) (decimal : Expansion) : List Char :=
  let digits := digitsOf decimal.digits
  if 0 ≤ decimal.exponent then
    digits ++ List.replicate decimal.exponent.toNat '0' ++ if pointZero then ['.', '0'] else []
  else
    let places := (-decimal.exponent).toNat
    let padded := List.replicate (places + 1 - digits.length) '0' ++ digits
    padded.take (padded.length - places) ++ '.' :: padded.drop (padded.length - places)

/-- A decimal written with one digit before the point and a signed exponent. -/
def scientific (decimal : Expansion) (leading : Int) : List Char :=
  let mantissa :=
    match digitsOf decimal.digits with
    | [] => []
    | [digit] => [digit]
    | digit :: rest => digit :: '.' :: rest
  mantissa ++ ['e', if leading < 0 then '-' else '+'] ++ digitsOf leading.natAbs

/-- The written form of a finite float. -/
def Layout.render (layout : Layout) (x : Float) : List Char :=
  let decimal := shortest layout.tie x
  let leading := decimal.exponent + (digitsOf decimal.digits).length - 1
  let body :=
    if decimal.digits = 0 ∨ layout.isPositional leading then positional layout.pointZero decimal
    else scientific decimal leading
  if x.toBits ≥ 0x8000000000000000 then '-' :: body else body

end Listing.Decimal
