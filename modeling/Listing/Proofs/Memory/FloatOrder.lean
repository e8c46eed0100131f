import Mathlib

/-!
# The order of floats

There is one undefined float, and the float of a whole number never is it (`isNaN_ofInt`).  All
other floats lie in a line.  They are compared by sign, exponent and fraction: each has a rank, and
a float is less than another exactly if its rank is (`float_lt_iff`).  The two zeros have one rank.
-/

namespace Listing.Memory

open Float.Model (UnpackedFloat Format)
open Float.Model.UnpackedFloat (unpackExponent unpackMantissa)

/-! ## The undefined float -/

/-- Bits are undefined only if the exponent is the largest and the fraction is not zero. -/
theorem isNaN_unpack {bits : BitVec Format.binary64.numBits}
    (bits_imp : unpackExponent bits = -1#_ → unpackMantissa bits = 0#_) :
    (UnpackedFloat.unpack Format.binary64 bits).isNaN = false := by
  rw [UnpackedFloat.unpack]
  split
  · next exponent_eq =>
      rw [if_pos (bits_imp exponent_eq)]
      rfl
  · split
    · split <;> rfl
    · rfl

theorem isNaN_pack {x : UnpackedFloat} (x_defined : x.isNaN = false) :
    (Float.ofModel (Float.Model.pack x)).isNaN = false := by
  apply isNaN_unpack
  dsimp only [Float.Model.pack]
  fun_cases UnpackedFloat.pack with
  | case1 => cases x_defined
  | case2 sign => simp [UnpackedFloat.packedInfinity]
  | case3 sign => simp [UnpackedFloat.packedZero]
  | case4 sign fraction exponent positive biased overflow =>
      simp [UnpackedFloat.packedInfinity]
  | case5 sign fraction exponent positive bits biased fits normal =>
      intro largest
      rw [UnpackedFloat.unpackExponent_packComponents] at largest
      have value_eq := congrArg BitVec.toNat largest
      simp only [BitVec.toNat_ofNat, BitVec.toNat_neg] at value_eq fits
      omega
  | case6 => simp

theorem isNaN_roundWithAccuracy (sign : UnpackedFloat.Sign) (fraction : ℕ) (exponent : ℤ)
    (accuracy : UnpackedFloat.Accuracy) :
    (UnpackedFloat.roundWithAccuracy Format.binary64 sign fraction exponent accuracy).isNaN =
      false := by
  unfold UnpackedFloat.roundWithAccuracy
  dsimp only
  split <;> rfl

theorem isNaN_normalize (fraction exponent : ℤ) (sign : UnpackedFloat.Sign) :
    (UnpackedFloat.normalize Format.binary64 fraction exponent sign).isNaN = false := by
  rw [UnpackedFloat.normalize]
  split
  · exact isNaN_roundWithAccuracy ..
  · rfl
  · exact isNaN_roundWithAccuracy ..

/-- A product with a finite factor that is not zero is defined if the other factor is. -/
theorem isNaN_mul {x : UnpackedFloat} (x_defined : x.isNaN = false) (sign : UnpackedFloat.Sign)
    (fraction : ℕ) (exponent : ℤ) (positive : 0 < fraction) :
    (UnpackedFloat.mul Format.binary64 x (.finite sign fraction exponent positive)).isNaN =
      false := by
  cases x with
  | notANumber => cases x_defined
  | infinity | zero => rfl
  | finite => exact isNaN_roundWithAccuracy ..

theorem isNaN_ofNat (n : ℕ) : (Float.ofNat n).isNaN = false := by
  show (Float.ofScientific n false 0).isNaN = false
  rw [Float.ofScientific]
  split
  -- A small number is converted exactly and multiplied by the float for one.
  · rw [if_neg (by decide)]
    have one_exists : ∃ sign fraction exponent positive,
        (Float.ofBits 0x3FF0000000000000).toModel.unpack =
          .finite sign fraction exponent positive :=
      ⟨_, _, _, _, rfl⟩
    obtain ⟨sign, fraction, exponent, positive, one_eq⟩ := one_exists
    have converted_false : n.toUInt64.toFloat.isNaN = false := isNaN_pack (isNaN_normalize ..)
    have product_false := isNaN_pack (isNaN_mul converted_false sign fraction exponent positive)
    rw [← one_eq] at product_false
    exact product_false
  · rw [if_neg (by decide)]
    apply isNaN_pack
    rw [UnpackedFloat.ofScientific]
    split_ifs with zero_eq large small whole
    · rfl
    · rfl
    · rfl
    · exact isNaN_mul rfl ..
    · exact absurd (Int.le_refl 0) whole

/-- The float of a whole number is defined. -/
theorem isNaN_ofInt (n : ℤ) : (Float.ofInt n).isNaN = false := by
  have neg_defined : ∀ x : UnpackedFloat, x.isNaN = false → x.neg.isNaN = false := by
    intro x x_defined
    cases x with
    | notANumber => cases x_defined
    | _ => rfl
  cases n with
  | ofNat n => exact isNaN_ofNat n
  | negSucc n => exact isNaN_pack (neg_defined _ (isNaN_ofNat (n + 1)))

theorem eq_of_isNaN {x y : Float} (x_defined : x.isNaN = true) (y_defined : y.isNaN = true) :
    x = y := by
  rw [Float.isNaN_eq_decide_eq_nan, decide_eq_true_iff] at x_defined y_defined
  rw [x_defined, y_defined]

/-! ## Ranks -/

/-- The place of an unpacked float: its class, from the negative infinity up to the positive one,
then its exponent and its fraction, both negated below zero. -/
def unpackedRank : UnpackedFloat → ℤ ×ₗ ℤ ×ₗ ℤ
  | .infinity .negative => toLex (-2, toLex (0, 0))
  | .finite .negative fraction exponent _ => toLex (-1, toLex (-exponent, -fraction))
  | .zero _ | .notANumber => toLex (0, toLex (0, 0))
  | .finite .positive fraction exponent _ => toLex (1, toLex (exponent, fraction))
  | .infinity .positive => toLex (2, toLex (0, 0))

/-- The place of a float among the defined ones. -/
def rank (x : Float) : ℤ ×ₗ ℤ ×ₗ ℤ :=
  unpackedRank x.toModel.unpack

theorem sign_compare_eq_lt_iff {sign other : UnpackedFloat.Sign} :
    compare sign other = .lt ↔ sign = .negative ∧ other = .positive := by
  cases sign <;> cases other <;> simp [compare]

/-- Of two floats with one sign the exponents decide, and then the fractions. -/
theorem then_compare_eq_lt_iff {exponent other : ℤ} {fraction otherFraction : ℕ} :
    (compare exponent other).then (compare fraction otherFraction) = .lt ↔
      exponent < other ∨ exponent = other ∧ fraction < otherFraction := by
  rw [Ordering.then_eq_lt, Int.compare_eq_lt, Int.compare_eq_eq, Nat.compare_eq_lt]

theorem then_compare_eq_gt_iff {exponent other : ℤ} {fraction otherFraction : ℕ} :
    (compare exponent other).then (compare fraction otherFraction) = .gt ↔
      other < exponent ∨ exponent = other ∧ otherFraction < fraction := by
  rw [Ordering.then_eq_gt, Int.compare_eq_gt, Int.compare_eq_eq, Nat.compare_eq_gt]

theorem unpacked_lt_iff {x y : UnpackedFloat} :
    x.lt y = true ↔ x.isNaN = false ∧ y.isNaN = false ∧ unpackedRank x < unpackedRank y := by
  rw [UnpackedFloat.lt, beq_iff_eq]
  cases x with
  | notANumber => simp [UnpackedFloat.compare, UnpackedFloat.isNaN]
  | infinity sign | zero sign | finite sign =>
      cases y with
      | notANumber => simp [UnpackedFloat.compare, UnpackedFloat.isNaN]
      | infinity other | zero other | finite other =>
          cases sign <;> cases other <;>
            simp [UnpackedFloat.compare, UnpackedFloat.isNaN, unpackedRank,
              Prod.Lex.toLex_lt_toLex, sign_compare_eq_lt_iff, then_compare_eq_lt_iff,
              then_compare_eq_gt_iff]

/-- A float is less than another if both are defined and its rank is less. -/
theorem float_lt_iff {x y : Float} :
    x < y ↔ x.isNaN = false ∧ y.isNaN = false ∧ rank x < rank y := by
  have unpacked : x < y ↔ x.toModel.unpack.lt y.toModel.unpack = true := by
    show Float.lt x y = true ↔ _
    rw [Float.lt, decide_eq_true_iff]
    rfl
  rw [unpacked, unpacked_lt_iff]
  rfl

theorem float_lt_asymm {x y : Float} (lt : x < y) : ¬y < x := by
  rw [float_lt_iff] at lt ⊢
  exact fun gt => lt_asymm lt.2.2 gt.2.2

end Listing.Memory
