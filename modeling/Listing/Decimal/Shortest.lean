/-!
# The fewest digits that identify a number

A binary floating point number is the nearest one to every real in an interval around it.  It is
written with the shortest decimal of that interval and, among those of equal length, the one
nearest to the number.  Everything is computed exactly on natural numbers: an interval is a lower
and an upper numerator over one denominator.
-/

namespace Listing.Decimal

/-- A power of ten. -/
def tenTo (exponent : Nat) : Nat :=
  Nat.pow 10 exponent

/-- A power of two. -/
def twoTo (exponent : Nat) : Nat :=
  Nat.pow 2 exponent

/-- Which of two equally near decimals is taken. -/
inductive Tie where
  | toEven
  | up
deriving DecidableEq

/-- The number `digits * 10 ^ exponent`. -/
structure Expansion where
  digits : Nat
  exponent : Int
deriving DecidableEq

/-- A positive number `value / denominator` with the bounds of the reals that round to it.  The
bounds themselves round to it if `closed` holds. -/
structure Interval where
  low : Nat
  value : Nat
  high : Nat
  denominator : Nat
  closed : Bool

/-- The interval of the finite float with the given bits, its sign left aside.  The gap below a
power of two is half as wide as the gap above, the smallest exponent excepted. -/
def Interval.ofBits (bits : UInt64) : Interval :=
  let biased : Nat := bits.toNat / twoTo 52 % twoTo 11
  let fraction : Nat := bits.toNat % twoTo 52
  let mantissa : Nat := if biased = 0 then fraction else twoTo 52 + fraction
  let exponent : Int := if biased = 0 then -1074 else (biased : Int) - 1075
  let narrow := fraction = 0 ∧ 1 < biased
  let scale := twoTo exponent.toNat
  { low := (4 * mantissa - if narrow then 1 else 2) * scale
    value := 4 * mantissa * scale
    high := (4 * mantissa + 2) * scale
    denominator := 4 * twoTo (-exponent).toNat
    closed := mantissa % 2 = 0 }

/-- Whether a decimal rounds to the number. -/
def Interval.contains (interval : Interval) (decimal : Expansion) : Bool :=
  let scaled := decimal.digits * tenTo decimal.exponent.toNat * interval.denominator
  let unit := tenTo (-decimal.exponent).toNat
  (interval.low * unit < scaled || (interval.closed && interval.low * unit == scaled)) &&
    (scaled < interval.high * unit || (interval.closed && scaled == interval.high * unit))

/-- The least `k` such that the number lies below `10 ^ k`. -/
def Interval.magnitude (interval : Interval) : Int :=
  let guess : Int :=
    (Nat.toDigits 10 interval.value).length - (Nat.toDigits 10 interval.denominator).length
  if interval.value * tenTo (-guess).toNat < interval.denominator * tenTo guess.toNat then guess
  else guess + 1

/-- The best decimal with the given exponent that rounds to the number: only the two neighbours of
the number on that grid can do so. -/
def Interval.onGrid? (interval : Interval) (tie : Tie) (exponent : Int) : Option Expansion :=
  let numerator := interval.value * tenTo (-exponent).toNat
  let denominator := interval.denominator * tenTo exponent.toNat
  let below := numerator / denominator
  let remainder := numerator % denominator
  let lower : Expansion := ⟨below, exponent⟩
  let upper : Expansion := ⟨below + 1, exponent⟩
  let takeLower :=
    match compare (2 * remainder) denominator, tie with
    | .lt, _ => true
    | .gt, _ => false
    | .eq, .toEven => below % 2 == 0
    | .eq, .up => false
  match interval.contains lower && below != 0, interval.contains upper with
  | true, true => some (if takeLower then lower else upper)
  | true, false => some lower
  | false, true => some upper
  | false, false => none

/-- The number itself, which is always a finite decimal. -/
def Interval.exact (interval : Interval) : Expansion :=
  let places := Nat.log2 interval.denominator
  ⟨interval.value * Nat.pow 5 places, -(places : Int)⟩

/-- The same decimal without trailing zeros, as far as the fuel reaches. -/
def Expansion.stripZeros : Nat → Expansion → Expansion
  | 0, decimal => decimal
  | fuel + 1, decimal =>
      if decimal.digits % 10 = 0 ∧ decimal.digits ≠ 0 then
        stripZeros fuel ⟨decimal.digits / 10, decimal.exponent + 1⟩
      else decimal

/-- The shortest decimal that rounds to a positive number.  Seventeen digits always suffice. -/
def Interval.shortest (interval : Interval) (tie : Tie) : Expansion :=
  let magnitude := interval.magnitude
  let found := (List.range 17).findSome? fun (index : Nat) =>
    interval.onGrid? tie (magnitude - ((index : Int) + 1))
  (found.getD interval.exact).stripZeros 20

/-- The shortest decimal that identifies a finite float, its sign left aside. -/
def shortest (tie : Tie) (x : Float) : Expansion :=
  let interval := Interval.ofBits x.toBits
  if interval.value = 0 then ⟨0, 0⟩ else interval.shortest tie

end Listing.Decimal
