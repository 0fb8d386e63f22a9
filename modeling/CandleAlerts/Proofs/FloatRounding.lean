import Mathlib

/-!
How a product of doubles is rounded.

A double is a mantissa of 53 bits and an exponent. Rounding shifts a longer mantissa to the right
and counts one up when more than half a unit was lost, so that it never adds more than half a unit,
and a product below the middle between the greatest double and the next power of two stays finite.
-/

section

open Float.Model Float.Model.UnpackedFloat

namespace CandleAlerts.Float

/-! ## Shifting a mantissa -/

theorem mantissa_shiftRight (start : ExtendedMantissa) (places : Nat) :
    (start >>> places).mantissa = start.mantissa / 2 ^ places := by
  induction places with
  | zero => exact (Nat.div_one _).symm
  | succ places induction =>
      change (start >>> places).mantissa / 2 = _
      rw [induction, Nat.div_div_eq_div_mul, pow_succ]

/-- Half a unit of what is left when some bits are shifted out; without a shift nothing is lost. -/
def half : Nat → Nat
  | 0 => 0
  | places + 1 => 2 ^ places

/-- The bit that is rounded by is set only when at least half a unit was shifted out. -/
theorem half_le_of_roundBit {start : ExtendedMantissa} (exactly : start.roundBit = false)
    (places : Nat) (set : (start >>> places).roundBit = true) :
    2 ^ places ≤ start.mantissa % 2 ^ places + half places := by
  cases places with
  | zero =>
      change start.roundBit = true at set
      rw [exactly] at set
      cases set
  | succ places =>
      change ((start >>> places).mantissa % 2 != 0) = true at set
      rw [mantissa_shiftRight, bne_iff_ne] at set
      have bit : start.mantissa / 2 ^ places % 2 = 1 := by omega
      rw [half, pow_succ, Nat.mod_mul, bit]
      omega

def exactMantissa (mantissa : Nat) : ExtendedMantissa := .ofMantissaAndAccuracy mantissa .exact

/-- A mantissa shifted to the right and rounded. -/
def rounded (mantissa places : Nat) : Nat := (exactMantissa mantissa >>> places).roundedMantissa

theorem roundedMantissa_bounds (extended : ExtendedMantissa) :
    extended.mantissa ≤ extended.roundedMantissa ∧
      extended.roundedMantissa ≤ extended.mantissa + (if extended.roundBit then 1 else 0) := by
  rcases extended with ⟨mantissa, roundBit, stickyBit⟩
  cases roundBit <;> cases stickyBit <;>
    simp [ExtendedMantissa.roundedMantissa, ExtendedMantissa.accuracy,
      Accuracy.roundToNearestEven]
  omega

theorem div_le_rounded (mantissa places : Nat) :
    mantissa / 2 ^ places ≤ rounded mantissa places := by
  have lower := (roundedMantissa_bounds (exactMantissa mantissa >>> places)).1
  rw [mantissa_shiftRight] at lower
  exact lower

theorem rounded_le_div (mantissa places : Nat) :
    rounded mantissa places ≤ mantissa / 2 ^ places + 1 := by
  have upper := (roundedMantissa_bounds (exactMantissa mantissa >>> places)).2
  rw [mantissa_shiftRight] at upper
  refine Nat.le_trans upper (Nat.add_le_add_left ?_ _)
  split <;> omega

/-- Rounding adds at most half a unit. -/
theorem rounded_le (mantissa places : Nat) :
    rounded mantissa places * 2 ^ places ≤ mantissa + half places := by
  have upper := (roundedMantissa_bounds (exactMantissa mantissa >>> places)).2
  rw [mantissa_shiftRight] at upper
  have parts : mantissa / 2 ^ places * 2 ^ places + mantissa % 2 ^ places = mantissa :=
    Nat.div_add_mod' mantissa (2 ^ places)
  have scaled := Nat.mul_le_mul_right (2 ^ places) upper
  rw [Nat.add_mul] at scaled
  change rounded mantissa places * 2 ^ places ≤ mantissa / 2 ^ places * 2 ^ places + _ at scaled
  by_cases set : (exactMantissa mantissa >>> places).roundBit = true
  · have lost : 2 ^ places ≤ mantissa % 2 ^ places + half places :=
      half_le_of_roundBit rfl places set
    rw [if_pos set] at scaled
    omega
  · rw [if_neg set] at scaled
    omega

/-! ## Rounding to a double -/

/-- How many bits a mantissa has more than a double's. -/
def excess (mantissa : Nat) : Nat := mantissa.log2 - 52

theorem shiftToTargetExponent_eq {mantissa : Nat} {exponent : Int} (normal : 52 ≤ mantissa.log2)
    (above : -1074 ≤ exponent) :
    shiftToTargetExponent Format.binary64 mantissa exponent .exact =
      (exactMantissa mantissa >>> excess mantissa, exponent + excess mantissa) := by
  have target : Format.binary64.targetExponent (totalExponent mantissa exponent) - exponent =
      (excess mantissa : Int) := by
    simp only [Format.targetExponent, totalExponent, Format.mantissaBits, Format.minExponent,
      excess]
    norm_num
    omega
  have shift : (Format.binary64.targetExponent (totalExponent mantissa exponent) - exponent).toNat =
      excess mantissa := by
    rw [target]
    rfl
  simp only [shiftToTargetExponent, shiftToExponent, shift]
  rfl

theorem pow_le_rounded {mantissa : Nat} (normal : 52 ≤ mantissa.log2) :
    2 ^ 52 ≤ rounded mantissa (excess mantissa) := by
  refine Nat.le_trans ?_ (div_le_rounded mantissa (excess mantissa))
  have notZero : mantissa ≠ 0 := by
    rintro rfl
    simp at normal
  have split : 52 + excess mantissa = mantissa.log2 := by
    simp only [excess]
    omega
  rw [Nat.le_div_iff_mul_le (Nat.two_pow_pos _), ← pow_add, split]
  exact Nat.log2_self_le notZero

theorem rounded_le_pow {mantissa : Nat} (normal : 52 ≤ mantissa.log2) :
    rounded mantissa (excess mantissa) ≤ 2 ^ 53 := by
  have below : mantissa / 2 ^ excess mantissa < 2 ^ 53 := by
    have split : 53 + excess mantissa = mantissa.log2 + 1 := by
      simp only [excess]
      omega
    rw [Nat.div_lt_iff_lt_mul (Nat.two_pow_pos _), ← pow_add, split]
    exact Nat.lt_log2_self
  have upper := rounded_le_div mantissa (excess mantissa)
  omega

/-- A mantissa that has been rounded is shifted once more when it was carried to 54 bits. -/
theorem roundWithAccuracy_eq (sign : Sign) {mantissa : Nat} {exponent : Int}
    (normal : 52 ≤ mantissa.log2) (above : -1074 ≤ exponent) (result carry : Nat)
    (carried : rounded mantissa (excess mantissa) / 2 ^ carry = result)
    (carry_eq : excess (rounded mantissa (excess mantissa)) = carry) (positive : 0 < result) :
    roundWithAccuracy Format.binary64 sign mantissa exponent .exact =
      .finite sign result (exponent + (excess mantissa + carry : Nat)) positive := by
  have long : 52 ≤ (rounded mantissa (excess mantissa)).log2 :=
    (Nat.le_log2 (by have := pow_le_rounded normal; omega)).2 (pow_le_rounded normal)
  have aboveStill : -1074 ≤ exponent + excess mantissa := by omega
  have second := shiftToTargetExponent_eq long aboveStill
  rw [carry_eq] at second
  have kept : (exactMantissa (rounded mantissa (excess mantissa)) >>> carry).mantissa = result := by
    rw [mantissa_shiftRight]
    exact carried
  simp only [roundWithAccuracy, shiftToTargetExponent_eq normal above]
  change (if zero : (shiftToTargetExponent Format.binary64 (rounded mantissa (excess mantissa))
    (exponent + excess mantissa) .exact).1.mantissa = 0 then UnpackedFloat.zero sign
    else .finite sign _ (shiftToTargetExponent Format.binary64 (rounded mantissa (excess mantissa))
    (exponent + excess mantissa) .exact).2 (Nat.pos_of_ne_zero zero)) = _
  simp only [second, kept]
  rw [dif_neg (by omega)]
  congr 1
  omega

/-- How many times the least positive double a number is. -/
def units (mantissa : Nat) (exponent : Int) : Nat := mantissa * 2 ^ (exponent + 1074).toNat

theorem units_shift (mantissa places : Nat) {exponent : Int} (above : -1074 ≤ exponent) :
    units mantissa (exponent + places) = mantissa * 2 ^ places * 2 ^ (exponent + 1074).toNat := by
  have split : (exponent + places + 1074).toNat = places + (exponent + 1074).toNat := by omega
  rw [units, split, pow_add, Nat.mul_assoc]

/-- A long mantissa is rounded to 53 bits. That adds at most half a unit, and does not happen to
reach a power of two from further below. -/
theorem exists_round (sign : Sign) {mantissa : Nat} {exponent : Int}
    (normal : 52 ≤ mantissa.log2) (above : -1074 ≤ exponent) :
    ∃ (result : Nat) (final : Int) (positive : 0 < result),
      roundWithAccuracy Format.binary64 sign mantissa exponent .exact =
          .finite sign result final positive ∧
        2 ^ 52 ≤ result ∧ result < 2 ^ 53 ∧ exponent + excess mantissa ≤ final ∧
        units result final ≤
          units mantissa exponent + half (excess mantissa) * 2 ^ (exponent + 1074).toNat ∧
        units (2 ^ 54 - 1) final ≤ 4 * units mantissa exponent := by
  have lower := pow_le_rounded normal
  have upper := rounded_le_pow normal
  have bound := rounded_le mantissa (excess mantissa)
  have scaled {result places : Nat}
      (near : result * 2 ^ places ≤ mantissa + half (excess mantissa))
      (far : (2 ^ 54 - 1) * 2 ^ places ≤ 4 * mantissa) :
      units result (exponent + places) ≤
          units mantissa exponent + half (excess mantissa) * 2 ^ (exponent + 1074).toNat ∧
        units (2 ^ 54 - 1) (exponent + places) ≤ 4 * units mantissa exponent := by
    rw [units_shift _ _ above, units_shift _ _ above]
    have nearScaled := Nat.mul_le_mul_right (2 ^ (exponent + 1074).toNat) near
    have farScaled := Nat.mul_le_mul_right (2 ^ (exponent + 1074).toNat) far
    rw [Nat.add_mul] at nearScaled
    rw [Nat.mul_assoc 4] at farScaled
    exact ⟨nearScaled, farScaled⟩
  by_cases carried : rounded mantissa (excess mantissa) = 2 ^ 53
  · have round := roundWithAccuracy_eq sign normal above (2 ^ 52) 1
      (by rw [carried]; decide) (by rw [carried, excess, Nat.log2_two_pow]) (by decide)
    rw [carried] at bound
    refine ⟨2 ^ 52, _, by decide, round, by decide, by decide, by omega, scaled ?_ ?_⟩
    · rw [pow_succ]
      omega
    · have lost : 2 * half (excess mantissa) ≤ 2 ^ excess mantissa := by
        cases excess mantissa with
        | zero => decide
        | succ places => exact Nat.le_of_eq (Nat.mul_comm 2 _)
      rw [pow_succ]
      omega
  · have short : rounded mantissa (excess mantissa) < 2 ^ 53 := by omega
    have log : (rounded mantissa (excess mantissa)).log2 = 52 :=
      (Nat.log2_eq_iff (by omega)).2 ⟨lower, short⟩
    have round := roundWithAccuracy_eq sign normal above _ 0 (Nat.div_one _)
      (by rw [excess, log]) (by omega)
    refine ⟨_, _, by omega, round, lower, short, by omega, scaled bound ?_⟩
    have notZero : mantissa ≠ 0 := by
      rintro rfl
      simp at normal
    have long : 2 ^ 52 * 2 ^ excess mantissa ≤ mantissa := by
      have split : 52 + excess mantissa = mantissa.log2 := by
        simp only [excess]
        omega
      rw [← pow_add, split]
      exact Nat.log2_self_le notZero
    rw [Nat.add_zero]
    omega

/-! ## Bits and back -/

theorem unpackSign_packComponents (sign : Sign) (exponent : BitVec 11) (mantissa : BitVec 52) :
    Sign.ofBitVec (unpackSign (packComponents Format.binary64 sign exponent mantissa)) = sign := by
  simp only [unpackSign, packComponents, BitVec.extractLsb]
  rw [BitVec.extractLsb'_append_eq_of_le (by omega), BitVec.extractLsb'_append_eq_of_le (by omega)]
  cases sign <;> rfl

/-- A number with a full mantissa and an exponent in range comes out of its bits as it went in. -/
theorem unpack_pack (sign : Sign) {mantissa : Nat} {exponent : Int}
    (positive : 0 < mantissa) (full : 2 ^ 52 ≤ mantissa) (short : mantissa < 2 ^ 53)
    (above : -1074 ≤ exponent) (below : exponent ≤ 971) :
    (Float.Model.pack (.finite sign mantissa exponent positive)).unpack =
      .finite sign mantissa exponent positive := by
  have log : mantissa.log2 = 52 := (Nat.log2_eq_iff (by omega)).2 ⟨full, short⟩
  have biased : ((exponent + (1023 : Nat) + (52 : Nat)).toNat : Int) = exponent + 1075 := by omega
  have packed : UnpackedFloat.pack Format.binary64 (.finite sign mantissa exponent positive) =
      packComponents Format.binary64 sign
        (BitVec.ofNat 11 (exponent + (1023 : Nat) + (52 : Nat)).toNat)
        (BitVec.ofNat 52 mantissa) := by
    simp only [UnpackedFloat.pack]
    rw [if_neg, if_pos]
    · rfl
    · rw [log]
      rfl
    · change ¬ 2 ^ 11 ≤ (exponent + (1023 : Nat) + (52 : Nat)).toNat + 1
      omega
  generalize (exponent + (1023 : Nat) + (52 : Nat)).toNat = stored at biased packed
  change UnpackedFloat.unpack Format.binary64 (UnpackedFloat.pack Format.binary64 _) = _
  rw [packed]
  simp only [UnpackedFloat.unpack, unpackExponent_packComponents, unpackMantissa_packComponents,
    unpackSign_packComponents]
  rw [if_neg, if_neg]
  · have whole : (1#1 ++ BitVec.ofNat 52 mantissa).toNat = mantissa := by
      rw [BitVec.toNat_append, ← Nat.shiftLeft_add_eq_or_of_lt (BitVec.isLt _), BitVec.toNat_ofNat,
        BitVec.toNat_ofNat, Nat.shiftLeft_eq]
      omega
    have same :
        ((BitVec.ofNat 11 stored).toNat : Int) - ((1023 : Nat) + (52 : Nat)) = exponent := by
      rw [BitVec.toNat_ofNat]
      omega
    congr 1
  · intro zero
    have bits : stored % 2 ^ 11 = 0 := congrArg BitVec.toNat zero
    omega
  · intro ones
    have bits : stored % 2 ^ 11 = 2047 := congrArg BitVec.toNat ones
    omega

/-- A number below the middle between the greatest double and the next power of two has a double
near it. -/
theorem exists_unpack_round (sign : Sign) {mantissa : Nat} {exponent : Int}
    (normal : 52 ≤ mantissa.log2) (above : -1074 ≤ exponent)
    (below : units mantissa exponent < (2 ^ 54 - 1) * 2 ^ 2044) :
    ∃ (result : Nat) (final : Int) (positive : 0 < result),
      (Float.Model.pack (roundWithAccuracy Format.binary64 sign mantissa exponent .exact)).unpack =
          .finite sign result final positive ∧
        2 ^ 52 ≤ result ∧ result < 2 ^ 53 ∧ exponent + excess mantissa ≤ final ∧
        units result final ≤
          units mantissa exponent + half (excess mantissa) * 2 ^ (exponent + 1074).toNat := by
  rcases exists_round sign normal above with
    ⟨result, final, positive, round, full, short, finalAbove, near, reach⟩
  have small : final ≤ 971 := by
    by_contra large
    have exponents : 2046 ≤ (final + 1074).toNat := by omega
    have powers := Nat.pow_le_pow_right (n := 2) (by decide) exponents
    have scaled := Nat.mul_le_mul_left (2 ^ 54 - 1) powers
    simp only [units] at reach below
    omega
  refine ⟨result, final, positive, ?_, full, short, finalAbove, near⟩
  rw [round]
  exact unpack_pack sign positive full short (by omega) small

/-! ## Products -/

theorem isFinite_mul {left right : Float} {leftSign rightSign : Sign}
    {leftMantissa rightMantissa : Nat} {leftExponent rightExponent : Int}
    {leftPositive : 0 < leftMantissa} {rightPositive : 0 < rightMantissa}
    (leftUnpacked : left.toModel.unpack =
      .finite leftSign leftMantissa leftExponent leftPositive)
    (rightUnpacked : right.toModel.unpack =
      .finite rightSign rightMantissa rightExponent rightPositive)
    (full : 2 ^ 52 ≤ leftMantissa) (above : -1074 ≤ leftExponent + rightExponent)
    (below : units (leftMantissa * rightMantissa) (leftExponent + rightExponent) <
      (2 ^ 54 - 1) * 2 ^ 2044) :
    (left * right).isFinite = true := by
  have long : 52 ≤ (leftMantissa * rightMantissa).log2 := by
    rw [Nat.le_log2 (by positivity)]
    exact Nat.le_trans full (Nat.le_mul_of_pos_right _ rightPositive)
  rcases exists_unpack_round (leftSign * rightSign) long above below with
    ⟨result, final, positive, round, -⟩
  have product : (left * right).toModel.unpack =
      .finite (leftSign * rightSign) result final positive := by
    rw [← round]
    change (Float.Model.pack (UnpackedFloat.mul Format.binary64 left.toModel.unpack
      right.toModel.unpack)).unpack = _
    rw [leftUnpacked, rightUnpacked]
    rfl
  change (left * right).toModel.unpack.isFinite = true
  rw [product]
  rfl

/-! ## Whole numbers -/

theorem log2_mul_two_pow {number : Nat} (notZero : number ≠ 0) (places : Nat) :
    (number * 2 ^ places).log2 = number.log2 + places := by
  rw [Nat.log2_eq_iff (by positivity)]
  have lower := Nat.mul_le_mul_right (2 ^ places) (Nat.log2_self_le notZero)
  have upper := Nat.mul_lt_mul_of_pos_right (Nat.lt_log2_self (n := number))
    (Nat.two_pow_pos places)
  rw [← pow_add] at lower upper
  have split : number.log2 + 1 + places = number.log2 + places + 1 := by omega
  rw [split] at upper
  exact ⟨lower, upper⟩

theorem ofNat_eq (count : Nat) : Float.ofNat count = Float.ofScientific count false 0 := by
  unfold Float.ofNat
  rfl

/-- Whether a double is what a natural number is rounded to: it is greater by half a unit at
most. -/
def NearNat (count : Nat) (double : Float) : Prop :=
  ∃ (mantissa : Nat) (exponent : Int) (positive : 0 < mantissa),
    double.toModel.unpack = .finite .positive mantissa exponent positive ∧
      2 ^ 52 ≤ mantissa ∧ -52 ≤ exponent ∧
      units mantissa exponent ≤ count * 2 ^ 1074 + 2 ^ (count.log2 + 1021)

/-- Words are far below the greatest double. -/
theorem units_lt_of_word {count mantissa : Nat} {exponent : Int} (short : count < 2 ^ 64)
    (value : units mantissa exponent ≤ count * 2 ^ 1074) :
    units mantissa exponent < (2 ^ 54 - 1) * 2 ^ 2044 :=
  calc units mantissa exponent
    _ ≤ count * 2 ^ 1074 := value
    _ < 2 ^ 64 * 2 ^ 1074 := (Nat.mul_lt_mul_right (by positivity)).2 short
    _ ≤ (2 ^ 54 - 1) * 2 ^ 2044 := by decide +kernel

theorem nearNat_of_round {count : Nat} {double : Float} (mantissa : Nat) (exponent : Int)
    (short : count < 2 ^ 64) (normal : 52 ≤ mantissa.log2) (above : -1074 ≤ exponent)
    (value : units mantissa exponent ≤ count * 2 ^ 1074)
    (fine : half (excess mantissa) * 2 ^ (exponent + 1074).toNat ≤ 2 ^ (count.log2 + 1021))
    (grown : -52 ≤ exponent + excess mantissa)
    (rounds : double.toModel =
      .pack (roundWithAccuracy Format.binary64 .positive mantissa exponent .exact)) :
    NearNat count double := by
  rcases exists_unpack_round .positive normal above (units_lt_of_word short value) with
    ⟨result, final, positive, round, full, -, finalAbove, near⟩
  refine ⟨result, final, positive, ?_, full, grown.trans finalAbove, ?_⟩
  · rw [rounds, round]
  · exact near.trans (Nat.add_le_add value fine)

theorem nearNat_of_long {count : Nat} (long : 2 ^ 53 ≤ count) (short : count < 2 ^ 64) :
    NearNat count (Float.ofNat count) := by
  have log : (count * 2 ^ 53).log2 = count.log2 + 53 := log2_mul_two_pow (by omega) 53
  have extra : excess (count * 2 ^ 53) = count.log2 + 1 := by
    rw [excess, log]
    omega
  have places : (-53 + 1074 : Int).toNat = 1021 := rfl
  apply nearNat_of_round (count * 2 ^ 53) (-53) short (by omega) (by decide)
  · rw [units, places, Nat.mul_assoc, ← pow_add]
  · rw [extra, half, places, pow_add]
  · omega
  · have far : ¬ (0 : Int) < -((2 ^ 11 : Int) + count.log2) := by omega
    rw [ofNat_eq, Float.ofScientific, dif_neg (by omega)]
    change Float.Model.pack (UnpackedFloat.ofScientific Format.binary64 count 0) = _
    simp only [UnpackedFloat.ofScientific]
    rw [dif_neg (by omega), if_neg (by decide), if_neg far, if_pos (by decide)]
    change Float.Model.pack (roundWithAccuracy Format.binary64 .positive (count <<< 53 * 1) (-53)
      .exact) = _
    rw [Nat.mul_one, Nat.shiftLeft_eq]

/-- A number of at most 53 bits is a double. -/
theorem exists_unpack_toFloat {count : Nat} (positive : 0 < count) (short : count < 2 ^ 53) :
    ∃ (mantissa : Nat) (exponent : Int) (mantissaPositive : 0 < mantissa),
      count.toUInt64.toFloat.toModel.unpack = .finite .positive mantissa exponent mantissaPositive ∧
        2 ^ 52 ≤ mantissa ∧ mantissa < 2 ^ 53 ∧ (count.log2 : Int) - 52 ≤ exponent ∧
        units mantissa exponent ≤ count * 2 ^ 1074 := by
  have size : count.log2 ≤ 52 := by
    have bound := (Nat.log2_lt (by omega)).2 short
    omega
  have log : (count * 2 ^ (52 - count.log2)).log2 = 52 := by
    rw [log2_mul_two_pow (by omega)]
    omega
  have none : excess (count * 2 ^ (52 - count.log2)) = 0 := by rw [excess, log]
  have value : units (count * 2 ^ (52 - count.log2)) (count.log2 - 52) = count * 2 ^ 1074 := by
    have split : 52 - count.log2 + ((count.log2 : Int) - 52 + 1074).toNat = 1074 := by omega
    rw [units, Nat.mul_assoc, ← pow_add, split]
  have above : -1074 ≤ (count.log2 : Int) - 52 := by omega
  rcases exists_unpack_round .positive log.ge above (units_lt_of_word (by omega) value.le) with
    ⟨result, final, resultPositive, round, full, resultShort, finalAbove, near⟩
  rw [none, half, Nat.zero_mul, Nat.add_zero, value] at near
  refine ⟨result, final, resultPositive, ?_, full, resultShort, by omega, near⟩
  rw [← round]
  have word : count.toUInt64.toNat = count := Nat.mod_eq_of_lt (by omega)
  have target :
      Format.binary64.targetExponent (totalExponent count 0) = (count.log2 : Int) - 52 := by
    simp only [Format.targetExponent, totalExponent, Format.mantissaBits, Format.minExponent]
    norm_num
    omega
  have shift : (0 - ((count.log2 : Int) - 52)).toNat = 52 - count.log2 := by omega
  have rounds : UnpackedFloat.ofUInt64 Format.binary64 count.toUInt64 =
      UnpackedFloat.round Format.binary64 .positive count 0 := by
    have more : compare (count : Int) 0 = .gt := compare_gt_iff_gt.2 (by omega)
    change UnpackedFloat.normalize Format.binary64 (count.toUInt64.toNat : Int) 0 .positive = _
    rw [word, UnpackedFloat.normalize, more, Int.toNat_natCast]
  change (Float.Model.pack (UnpackedFloat.ofUInt64 Format.binary64 count.toUInt64)).unpack = _
  rw [rounds, UnpackedFloat.round, target]
  simp only [decreaseExponent, shift, Nat.shiftLeft_eq]
  have lowered : 0 - ((52 - count.log2 : Nat) : Int) = (count.log2 : Int) - 52 := by omega
  rw [lowered]

theorem unpack_one : (Float.ofBits 0x3FF0000000000000).toModel.unpack =
    .finite .positive (2 ^ 52) (-52) (by decide) := rfl

theorem nearNat_of_short {count : Nat} (positive : 0 < count) (short : count < 2 ^ 53) :
    NearNat count (Float.ofNat count) := by
  rcases exists_unpack_toFloat positive short with
    ⟨mantissa, exponent, mantissaPositive, unpacked, full, mantissaShort, above, value⟩
  have log : (mantissa * 2 ^ 52).log2 = 104 := by
    rw [log2_mul_two_pow (by omega), (Nat.log2_eq_iff (by omega)).2 ⟨full, mantissaShort⟩]
  have extra : excess (mantissa * 2 ^ 52) = 52 := by rw [excess, log]
  have sum : (exponent - 52 + 1074).toNat = (exponent + 1022).toNat := by omega
  have value' : units (mantissa * 2 ^ 52) (exponent - 52) = units mantissa exponent := by
    have split : 52 + (exponent - 52 + 1074).toNat = (exponent + 1074).toNat := by omega
    rw [units, units, Nat.mul_assoc, ← pow_add, split]
  have small : exponent + 52 ≤ count.log2 := by
    have lower : 2 ^ (52 + (exponent + 1074).toNat) < 2 ^ (count.log2 + 1 + 1074) := by
      rw [pow_add, pow_add 2 (count.log2 + 1)]
      calc 2 ^ 52 * 2 ^ (exponent + 1074).toNat
        _ ≤ units mantissa exponent := Nat.mul_le_mul_right _ full
        _ ≤ count * 2 ^ 1074 := value
        _ < 2 ^ (count.log2 + 1) * 2 ^ 1074 :=
          (Nat.mul_lt_mul_right (by positivity)).2 Nat.lt_log2_self
    have exponents := (Nat.pow_lt_pow_iff_right (by decide)).1 lower
    omega
  apply nearNat_of_round (mantissa * 2 ^ 52) (exponent - 52) (by omega) (by omega) (by omega)
  · rw [value']
    exact value
  · rw [extra, half, ← pow_add]
    exact Nat.pow_le_pow_right (by decide) (by omega)
  · omega
  · rw [ofNat_eq, Float.ofScientific, dif_pos ⟨short, by decide⟩]
    change (count.toUInt64.toFloat * Float.ofBits 0x3FF0000000000000).toModel = _
    change Float.Model.pack (UnpackedFloat.mul Format.binary64 count.toUInt64.toFloat.toModel.unpack
      (Float.ofBits 0x3FF0000000000000).toModel.unpack) = _
    rw [unpacked, unpack_one]
    rfl

theorem nearNat_ofNat {count : Nat} (positive : 0 < count) (short : count < 2 ^ 64) :
    NearNat count (Float.ofNat count) := by
  by_cases long : 2 ^ 53 ≤ count
  · exact nearNat_of_long long short
  · exact nearNat_of_short positive (Nat.not_le.1 long)

/-! ## Powers of ten -/

/-- The end of the interval of numbers that are nearer to the second greatest double than to the
greatest. -/
def secondEnd : Nat := 2 ^ 1024 - 3 * 2 ^ 970

/-- The greatest number of seventeen digits whose product with a power of ten stays within an
end. -/
def greatestFactor (exponent : Nat) : Nat := min (10 ^ 17 - 1) (secondEnd / 10 ^ exponent)

/-- Whether the double of a power of ten, times what the greatest factor may be rounded to, is still
below the middle between the greatest double and the next power of two. -/
def powerFits (exponent : Nat) : Bool :=
  match (Float.ofScientific 1 false exponent).toModel.unpack with
  | .finite _ mantissa power _ =>
      -1022 ≤ power && (greatestFactor exponent * 2 ^ 1074 +
        2 ^ ((greatestFactor exponent).log2 + 1021)) * units mantissa power <
          (2 ^ 54 - 1) * 2 ^ 2044 * 2 ^ 1074
  | _ => false

theorem powerFits_of_lt : ∀ exponent < 309, powerFits exponent = true := by
  decide +kernel

theorem units_mul {leftMantissa rightMantissa : Nat} {leftExponent rightExponent : Int}
    (leftAbove : -1074 ≤ leftExponent) (rightAbove : -1074 ≤ rightExponent)
    (above : -1074 ≤ leftExponent + rightExponent) :
    units (leftMantissa * rightMantissa) (leftExponent + rightExponent) * 2 ^ 1074 =
      units leftMantissa leftExponent * units rightMantissa rightExponent := by
  have split : (leftExponent + rightExponent + 1074).toNat + 1074 =
      (leftExponent + 1074).toNat + (rightExponent + 1074).toNat := by omega
  rw [units, units, units, Nat.mul_assoc, ← pow_add, split, pow_add]
  ring

theorem secondEnd_lt : secondEnd < 10 ^ 309 := by
  decide +kernel

theorem exponent_lt_of_le_secondEnd {count exponent : Nat} (positive : 0 < count)
    (value : count * 10 ^ exponent ≤ secondEnd) : exponent < 309 := by
  by_contra large
  have power : 10 ^ 309 ≤ 10 ^ exponent := by
    gcongr
    · decide
    · omega
  have least : 10 ^ exponent ≤ count * 10 ^ exponent := Nat.le_mul_of_pos_left _ positive
  exact absurd secondEnd_lt (Nat.not_lt.mpr (power.trans (least.trans value)))

/-- A factor of seventeen digits times a power of ten is finite when the exact product is nearer to
the second greatest double than to the greatest. -/
theorem isFinite_mul_power {count exponent : Nat} (positive : 0 < count) (few : count < 10 ^ 17)
    (value : count * 10 ^ exponent ≤ secondEnd) :
    (Float.ofNat count * Float.ofScientific 1 false exponent).isFinite = true := by
  have fits := powerFits_of_lt exponent (exponent_lt_of_le_secondEnd positive value)
  simp only [powerFits] at fits
  split at fits
  · rename_i sign mantissa power powerPositive unpacked
    rw [Bool.and_eq_true, decide_eq_true_iff, decide_eq_true_iff] at fits
    rcases fits with ⟨powerAbove, below⟩
    rcases nearNat_ofNat positive (by omega) with
      ⟨factor, factorExponent, factorPositive, factorUnpacked, full, factorAbove, near⟩
    refine isFinite_mul factorUnpacked unpacked full (by omega) ?_
    have least : count ≤ greatestFactor exponent := by
      rw [greatestFactor, Nat.le_min]
      exact ⟨by omega, (Nat.le_div_iff_mul_le (by positivity)).2 value⟩
    have grown : units factor factorExponent ≤ greatestFactor exponent * 2 ^ 1074 +
        2 ^ ((greatestFactor exponent).log2 + 1021) := by
      have logs : count.log2 ≤ (greatestFactor exponent).log2 :=
        (Nat.le_log2 (by omega)).2 ((Nat.log2_self_le (by omega)).trans least)
      refine near.trans (Nat.add_le_add (Nat.mul_le_mul_right _ least) ?_)
      exact Nat.pow_le_pow_right (by decide) (Nat.add_le_add_right logs 1021)
    have product := Nat.lt_of_le_of_lt (Nat.mul_le_mul_right (units mantissa power) grown) below
    rw [← units_mul (by omega) (by omega) (by omega)] at product
    exact Nat.lt_of_mul_lt_mul_right product
  · cases fits

end CandleAlerts.Float

end
