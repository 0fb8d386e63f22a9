import CandleAlerts.Proofs.FloatComparison
import CandleAlerts.Proofs.FloatRounding

/-!
The numbers that doubles stand for.

A finite double is a whole number of times the least positive double, with a sign. Finite doubles
compare as the numbers that they stand for: of two exponents the greater one wins, since a mantissa
has its full length unless the exponent is the least.
-/

section

open Float.Model Float.Model.UnpackedFloat

namespace CandleAlerts.Float

/-! ## Exponents and mantissas -/

/-- A mantissa as the bits of a double give it. It is short of its full length only where there is
no lower exponent. -/
structure InShape (mantissa : Nat) (exponent : Int) : Prop where
  short : mantissa < 2 ^ 53
  above : -1074 ≤ exponent
  full : exponent = -1074 ∨ 2 ^ 52 ≤ mantissa

theorem inShape_of_unpack (bits : Float.Model) {sign : Sign} {mantissa : Nat} {exponent : Int}
    {positive : 0 < mantissa} (unpacked : bits.unpack = .finite sign mantissa exponent positive) :
    InShape mantissa exponent := by
  change UnpackedFloat.unpack Format.binary64 bits.toBits.toBitVec = _ at unpacked
  simp only [UnpackedFloat.unpack] at unpacked
  split at unpacked
  · split at unpacked <;> cases unpacked
  split at unpacked
  · next noExponent =>
      split at unpacked
      · cases unpacked
      · cases unpacked
        have short := (@unpackMantissa Format.binary64 bits.toBits.toBitVec).isLt
        rw [noExponent]
        exact ⟨short.trans (by decide), by decide, .inl rfl⟩
  · next someExponent =>
      cases unpacked
      generalize @unpackMantissa Format.binary64 bits.toBits.toBitVec = fraction
      generalize @unpackExponent Format.binary64 bits.toBits.toBitVec = stored at someExponent
      have short : fraction.toNat < 2 ^ 52 := fraction.isLt
      have whole : (1#1 ++ fraction).toNat = 2 ^ 52 + fraction.toNat := by
        rw [BitVec.toNat_append, ← Nat.shiftLeft_add_eq_or_of_lt short]
        rfl
      have storedPositive : 0 < stored.toNat := by
        rw [BitVec.toNat_pos, BitVec.pos_iff_ne_zero]
        exact someExponent
      refine ⟨?_, ?_, .inr ?_⟩
      · change (1#1 ++ fraction).toNat < 2 ^ 53
        omega
      · change -1074 ≤ (stored.toNat : Int) - ((1023 : Nat) + (52 : Nat))
        omega
      · change 2 ^ 52 ≤ (1#1 ++ fraction).toNat
        omega

theorem units_lt_of_exponent_lt {leftMantissa rightMantissa : Nat}
    {leftExponent rightExponent : Int} (left : InShape leftMantissa leftExponent)
    (right : InShape rightMantissa rightExponent) (lower : leftExponent < rightExponent) :
    units leftMantissa leftExponent < units rightMantissa rightExponent := by
  have above := left.above
  have full : 2 ^ 52 ≤ rightMantissa := right.full.resolve_left (by omega)
  have raised : (leftExponent + 1074).toNat + 1 ≤ (rightExponent + 1074).toNat := by omega
  calc units leftMantissa leftExponent
      < 2 ^ 53 * 2 ^ (leftExponent + 1074).toNat :=
        Nat.mul_lt_mul_of_pos_right left.short (Nat.pow_pos (by decide))
    _ = 2 ^ 52 * 2 ^ ((leftExponent + 1074).toNat + 1) := by
        rw [pow_succ 2 (leftExponent + 1074).toNat]
        ring
    _ ≤ units rightMantissa rightExponent :=
        Nat.mul_le_mul full (Nat.pow_le_pow_right (by decide) raised)

/-- Exponents first and then mantissas compare as what they amount to. -/
theorem compare_units {leftMantissa rightMantissa : Nat} {leftExponent rightExponent : Int}
    (left : InShape leftMantissa leftExponent) (right : InShape rightMantissa rightExponent) :
    (compare leftExponent rightExponent).then (compare leftMantissa rightMantissa) =
      compare (units leftMantissa leftExponent) (units rightMantissa rightExponent) := by
  -- A lower exponent decides whatever the mantissas are; equal ones leave it to the mantissas.
  rcases lt_trichotomy leftExponent rightExponent with lower | rfl | higher
  · rw [compare_lt_iff_lt.2 lower, compare_lt_iff_lt.2 (units_lt_of_exponent_lt left right lower)]
    rfl
  · have scale : 0 < 2 ^ (leftExponent + 1074).toNat := Nat.pow_pos (by decide)
    rw [compare_eq_iff_eq.2 rfl, Ordering.then, units, units]
    rcases lt_trichotomy leftMantissa rightMantissa with less | rfl | greater
    · rw [compare_lt_iff_lt.2 less, compare_lt_iff_lt.2 (Nat.mul_lt_mul_of_pos_right less scale)]
    · rw [compare_eq_iff_eq.2 rfl, compare_eq_iff_eq.2 rfl]
    · rw [compare_gt_iff_gt.2 greater,
        compare_gt_iff_gt.2 (Nat.mul_lt_mul_of_pos_right greater scale)]
  · rw [compare_gt_iff_gt.2 higher, compare_gt_iff_gt.2 (units_lt_of_exponent_lt right left higher)]
    rfl

/-! ## Signed numbers of units -/

/-- How many times the least positive double a finite double is. What is not finite counts as
zero. -/
def signedUnits : UnpackedFloat → Int
  | .finite sign mantissa exponent _ => sign.apply (units mantissa exponent)
  | .notANumber | .infinity _ | .zero _ => 0

theorem signedUnits_positive {mantissa : Nat} {exponent : Int} (positive : 0 < mantissa) :
    0 < signedUnits (.finite .positive mantissa exponent positive) :=
  Int.natCast_pos.2 (Nat.mul_pos positive (Nat.pow_pos (by decide)))

theorem signedUnits_negative {mantissa : Nat} {exponent : Int} (positive : 0 < mantissa) :
    signedUnits (.finite .negative mantissa exponent positive) < 0 :=
  Int.neg_neg_of_pos (signedUnits_positive positive)

theorem compare_natCast (left right : Nat) :
    compare (left : Int) (right : Int) = compare left right := by
  simp only [compare, compareOfLessAndEq, Int.ofNat_lt, Int.ofNat_inj]

theorem compare_neg (left right : Int) : compare (-left) (-right) = (compare left right).swap := by
  rw [← Std.OrientedCmp.eq_swap]
  simp only [compare, compareOfLessAndEq, Int.neg_lt_neg_iff, neg_inj, eq_comm]

/-- Finite doubles compare as their numbers of units. -/
theorem compare_eq_compare_signedUnits {left right : Float.Model}
    (leftFinite : left.unpack.isFinite = true) (rightFinite : right.unpack.isFinite = true) :
    left.unpack.compare right.unpack =
      some (compare (signedUnits left.unpack) (signedUnits right.unpack)) := by
  cases leftUnpacked : left.unpack with
  | notANumber => simp [leftUnpacked, UnpackedFloat.isFinite] at leftFinite
  | infinity sign => simp [leftUnpacked, UnpackedFloat.isFinite] at leftFinite
  | zero leftSign =>
      cases rightUnpacked : right.unpack with
      | notANumber => simp [rightUnpacked, UnpackedFloat.isFinite] at rightFinite
      | infinity sign => simp [rightUnpacked, UnpackedFloat.isFinite] at rightFinite
      | zero sign => rfl
      | finite sign mantissa exponent positive =>
          cases sign with
          | positive =>
              exact congrArg some (compare_lt_iff_lt.2 (signedUnits_positive positive)).symm
          | negative =>
              exact congrArg some (compare_gt_iff_gt.2 (signedUnits_negative positive)).symm
  | finite leftSign leftMantissa leftExponent leftPositive =>
      cases rightUnpacked : right.unpack with
      | notANumber => simp [rightUnpacked, UnpackedFloat.isFinite] at rightFinite
      | infinity sign => simp [rightUnpacked, UnpackedFloat.isFinite] at rightFinite
      | zero sign =>
          cases leftSign with
          | positive =>
              exact congrArg some (compare_gt_iff_gt.2 (signedUnits_positive leftPositive)).symm
          | negative =>
              exact congrArg some (compare_lt_iff_lt.2 (signedUnits_negative leftPositive)).symm
      | finite rightSign rightMantissa rightExponent rightPositive =>
          have magnitudes := compare_units (inShape_of_unpack left leftUnpacked)
            (inShape_of_unpack right rightUnpacked)
          cases leftSign with
          | positive =>
              cases rightSign with
              | positive =>
                  simp only [UnpackedFloat.compare, magnitudes, signedUnits, Sign.apply,
                    compare_natCast]
              | negative =>
                  exact congrArg some (compare_gt_iff_gt.2
                    ((signedUnits_negative rightPositive).trans
                      (signedUnits_positive leftPositive))).symm
          | negative =>
              cases rightSign with
              | positive =>
                  exact congrArg some (compare_lt_iff_lt.2
                    ((signedUnits_negative leftPositive).trans
                      (signedUnits_positive rightPositive))).symm
              | negative =>
                  simp only [UnpackedFloat.compare, magnitudes, signedUnits, Sign.apply,
                    compare_neg, compare_natCast]

/-! ## Rational numbers -/

/-- The number that a finite double stands for. -/
def value (double : Float) : ℚ := signedUnits double.toModel.unpack / 2 ^ 1074

section Finite

variable {left right : Float} (leftFinite : left.isFinite = true)
  (rightFinite : right.isFinite = true)

include leftFinite rightFinite

theorem compare_of_isFinite : left.toModel.unpack.compare right.toModel.unpack =
    some (compare (signedUnits left.toModel.unpack) (signedUnits right.toModel.unpack)) :=
  compare_eq_compare_signedUnits leftFinite rightFinite

theorem lt_iff_value_lt : left < right ↔ value left < value right := by
  rw [lt_iff, compare_of_isFinite leftFinite rightFinite, Option.some.injEq, compare_lt_iff_lt,
    value, value, div_lt_div_iff_of_pos_right (by positivity), Int.cast_lt]

theorem le_iff_value_le : left ≤ right ↔ value left ≤ value right := by
  rw [le_iff, compare_of_isFinite leftFinite rightFinite, Option.any_some, value, value,
    div_le_div_iff_of_pos_right (by positivity), Int.cast_le, ← compare_le_iff_le,
    Ordering.isLE_iff_ne_gt]

end Finite

end CandleAlerts.Float

end
