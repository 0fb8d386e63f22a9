import CandleAlerts.Proofs.DigitTexts
import CandleAlerts.Decimal.Shortest
import Mathlib.Data.List.DropRight

/-!
What is known of the digits chosen for a double.

The grid of seventeen digits is finer than the doubles are, so a neighbour on it lies in the
double's interval and the search ends there at the latest. The digits found begin with no zero, are
seventeen at most, and stand for a number that is not above the interval.
-/

namespace CandleAlerts.Decimal

/-! ## Comparing with powers of ten -/

/-- A comparison with a power of ten of either sign does not depend on how the power is shared out
among the two sides. -/
theorem scaled_le_iff (left right : Nat) {up down : Nat} {exponent : Int}
    (shared : (up : Int) - down = exponent) :
    left * 10 ^ down ≤ right * 10 ^ up ↔
      left * 10 ^ (-exponent).toNat ≤ right * 10 ^ exponent.toNat := by
  obtain ⟨common, upIs⟩ : ∃ common, up = exponent.toNat + common :=
    ⟨up - exponent.toNat, by omega⟩
  have downIs : down = (-exponent).toNat + common := by omega
  rw [upIs, downIs, pow_add, pow_add, ← Nat.mul_assoc, ← Nat.mul_assoc]
  exact Nat.mul_le_mul_right_iff (Nat.pow_pos (by decide))

theorem scaled_lt_iff (left right : Nat) {up down : Nat} {exponent : Int}
    (shared : (up : Int) - down = exponent) :
    left * 10 ^ down < right * 10 ^ up ↔
      left * 10 ^ (-exponent).toNat < right * 10 ^ exponent.toNat := by
  have opposed : (down : Int) - up = -exponent := by omega
  have opposite := scaled_le_iff right left opposed
  rw [neg_neg] at opposite
  omega

/-! ## The place of the first digit -/

theorem lt_pow_length_toDigits (number : Nat) :
    number < 10 ^ (Nat.toDigits 10 number).length :=
  (Nat.length_toDigits_le_iff (by decide) Nat.length_toDigits_pos).mp (Nat.le_refl _)

theorem pow_length_toDigits_le {number : Nat} (positive : 0 < number) :
    10 ^ ((Nat.toDigits 10 number).length - 1) ≤ number := by
  by_contra below
  rcases Nat.eq_zero_or_pos ((Nat.toDigits 10 number).length - 1) with none | some
  · rw [none] at below
    omega
  · have shorter := (Nat.length_toDigits_le_iff (b := 10) (by decide) some).mpr
      (Nat.lt_of_not_le below)
    omega

/-- A positive fraction is below the power of ten that its point names. -/
theorem lt_decimalPoint (value : Nat) {denominator : Nat} (positive : 0 < denominator) :
    value * 10 ^ (-decimalPoint value denominator).toNat <
      denominator * 10 ^ (decimalPoint value denominator).toNat := by
  simp only [decimalPoint, Nat.pow_eq]
  split
  next below => exact below
  next =>
      have upper := lt_pow_length_toDigits value
      have lower := pow_length_toDigits_le positive
      have digits := Nat.length_toDigits_pos (b := 10) (n := denominator)
      have shared : ((Nat.toDigits 10 value).length : Int) -
          ((Nat.toDigits 10 denominator).length - 1 : Nat) =
            (Nat.toDigits 10 value).length - (Nat.toDigits 10 denominator).length + 1 := by omega
      apply (scaled_lt_iff value denominator shared).mp
      calc value * 10 ^ ((Nat.toDigits 10 denominator).length - 1)
          ≤ value * denominator := Nat.mul_le_mul_left _ lower
        _ < denominator * 10 ^ (Nat.toDigits 10 value).length := by
            rw [Nat.mul_comm]
            exact Nat.mul_lt_mul_of_pos_left upper positive

/-- A positive fraction is at least the power of ten before the one that its point names. -/
theorem decimalPoint_le {value : Nat} (positive : 0 < value) (denominator : Nat) :
    denominator * 10 ^ (decimalPoint value denominator - 1).toNat ≤
      value * 10 ^ (-(decimalPoint value denominator - 1)).toNat := by
  simp only [decimalPoint, Nat.pow_eq]
  split
  next =>
      have upper := lt_pow_length_toDigits denominator
      have lower := pow_length_toDigits_le positive
      have digits := Nat.length_toDigits_pos (b := 10) (n := value)
      have shared : ((Nat.toDigits 10 denominator).length : Int) -
          ((Nat.toDigits 10 value).length - 1 : Nat) =
            -((Nat.toDigits 10 value).length - (Nat.toDigits 10 denominator).length - 1) := by omega
      have scaled := scaled_le_iff denominator value shared
      rw [neg_neg] at scaled
      apply scaled.mp
      rw [Nat.mul_comm]
      exact Nat.mul_le_mul lower (Nat.le_of_lt upper)
  next notBelow =>
      rw [add_sub_cancel_right]
      exact Nat.le_of_not_lt notBelow

/-! ## Rounding to a grid -/

theorem roundHalfEven_bounds (numerator denominator : Nat) :
    numerator / denominator ≤ roundHalfEven numerator denominator ∧
      roundHalfEven numerator denominator ≤ numerator / denominator + 1 := by
  simp only [roundHalfEven]
  split
  · omega
  · split
    · omega
    · split <;> omega

/-- Rounding moves a number by half a step at most. -/
theorem roundHalfEven_near (numerator : Nat) {denominator : Nat} (positive : 0 < denominator) :
    2 * (roundHalfEven numerator denominator * denominator) ≤ 2 * numerator + denominator ∧
      2 * numerator ≤ 2 * (roundHalfEven numerator denominator * denominator) + denominator := by
  have division : numerator / denominator * denominator + numerator % denominator = numerator := by
    rw [Nat.mul_comm]
    exact Nat.div_add_mod numerator denominator
  have above : (numerator / denominator + 1) * denominator =
      numerator / denominator * denominator + denominator := Nat.succ_mul _ _
  simp only [roundHalfEven]
  split
  · omega
  · split
    · have rest := Nat.mod_lt numerator positive
      omega
    · split <;> omega

/-! ## The interval of a double -/

/-- An interval of which the value is positive and less than `2 * 10 ^ 16` times as large as its
distance from either end. -/
structure Interval.IsWide (interval : Interval) : Prop where
  denominator_pos : 0 < interval.denominator
  value_pos : 0 < interval.value
  below : interval.value + 2 * 10 ^ 16 * interval.low < 2 * 10 ^ 16 * interval.value
  above : 2 * 10 ^ 16 * interval.value + interval.value < 2 * 10 ^ 16 * interval.high

theorem Interval.isWide_around {significand : Nat} {exponent : Int} {narrowBelow : Bool}
    (positive : 0 < significand) (short : significand < 2 ^ 53)
    (narrow : narrowBelow = true → significand = 2 ^ 52) :
    (Interval.around significand exponent narrowBelow).IsWide := by
  have raised : 0 < 2 ^ exponent.toNat := Nat.pow_pos (by decide)
  have lowered : 0 < 2 ^ (-exponent).toNat := Nat.pow_pos (by decide)
  have distance : 4 * significand + 2 * 10 ^ 16 * (4 * significand - if narrowBelow then 1 else 2) <
      2 * 10 ^ 16 * (4 * significand) := by
    cases narrowBelow with
    | false => simp only [Bool.false_eq_true, if_false]; omega
    | true => rw [narrow rfl]; decide
  simp only [Interval.around, Nat.pow_eq]
  generalize 2 ^ exponent.toNat = raise at raised ⊢
  constructor
  · exact Nat.mul_pos (by decide) lowered
  · exact Nat.mul_pos (by omega) raised
  · have scaled := Nat.mul_lt_mul_of_pos_right distance raised
    rw [Nat.add_mul, Nat.mul_assoc, Nat.mul_assoc (2 * 10 ^ 16)] at scaled
    simpa only [Nat.mul_assoc] using scaled
  · have distance : 2 * 10 ^ 16 * (4 * significand) + 4 * significand <
        2 * 10 ^ 16 * (4 * significand + 2) := by omega
    have scaled := Nat.mul_lt_mul_of_pos_right distance raised
    rw [Nat.add_mul] at scaled
    simpa only [Nat.mul_assoc] using scaled

/-- Of an interval that is wide enough, a number within half a step of the value is inside, if the
step goes `10 ^ 16` times into the value. -/
theorem Interval.IsWide.inside {interval : Interval} (wide : interval.IsWide)
    {raise step near : Nat} (raised : 0 < raise) (fine : 10 ^ 16 * step ≤ interval.value * raise)
    (close : 2 * near ≤ 2 * (interval.value * raise) + step ∧
      2 * (interval.value * raise) ≤ 2 * near + step) :
    interval.low * raise < near ∧ near < interval.high * raise := by
  have below := Nat.mul_lt_mul_of_pos_right wide.below raised
  have above := Nat.mul_lt_mul_of_pos_right wide.above raised
  rw [Nat.add_mul, Nat.mul_assoc, Nat.mul_assoc (2 * 10 ^ 16)] at below
  rw [Nat.add_mul, Nat.mul_assoc, Nat.mul_assoc (2 * 10 ^ 16)] at above
  omega

/-! ## A neighbour on a grid -/

/-- Whether a multiple of a step lies in an interval that is raised by a factor. -/
def Interval.contains (interval : Interval) (raise step candidate : Nat) : Bool :=
  if interval.closed then
    interval.low * raise ≤ candidate * step && candidate * step ≤ interval.high * raise
  else interval.low * raise < candidate * step && candidate * step < interval.high * raise

theorem Interval.le_high_of_contains {interval : Interval} {raise step candidate : Nat}
    (inside : interval.contains raise step candidate = true) :
    candidate * step ≤ interval.high * raise := by
  unfold contains at inside
  split at inside <;> simp only [Bool.and_eq_true, decide_eq_true_eq] at inside <;> omega

theorem Interval.contains_of_between {interval : Interval} {raise step candidate : Nat}
    (above : interval.low * raise < candidate * step)
    (below : candidate * step < interval.high * raise) :
    interval.contains raise step candidate = true := by
  unfold contains
  split <;> simp only [Bool.and_eq_true, decide_eq_true_eq] <;> omega

theorem gridPoint?_eq (interval : Interval) (unit : Int) :
    gridPoint? interval unit =
      let raise := 10 ^ (-unit).toNat
      let step := interval.denominator * 10 ^ unit.toNat
      let below := interval.value * raise / step
      let nearest := roundHalfEven (interval.value * raise) step
      if interval.contains raise step nearest then some nearest
      else if interval.contains raise step below then some below
      else if interval.contains raise step (below + 1) then some (below + 1)
      else none := rfl

/-- The point chosen is one of the two neighbours of the value and is inside. -/
theorem gridPoint?_bounds {interval : Interval} {unit : Int} {count : Nat}
    (chosen : gridPoint? interval unit = some count) :
    let below := interval.value * 10 ^ (-unit).toNat / (interval.denominator * 10 ^ unit.toNat)
    (below ≤ count ∧ count ≤ below + 1) ∧
      interval.contains (10 ^ (-unit).toNat) (interval.denominator * 10 ^ unit.toNat) count := by
  have bounds := roundHalfEven_bounds (interval.value * 10 ^ (-unit).toNat)
    (interval.denominator * 10 ^ unit.toNat)
  rw [gridPoint?_eq] at chosen
  dsimp only at chosen ⊢
  split at chosen
  next inside =>
      cases chosen
      exact ⟨bounds, inside⟩
  next =>
      split at chosen
      next inside =>
          cases chosen
          exact ⟨by omega, inside⟩
      next =>
          split at chosen
          next inside =>
              cases chosen
              exact ⟨by omega, inside⟩
          next => cases chosen

theorem gridPoint?_isSome {interval : Interval} (wide : interval.IsWide) (unit : Int)
    (fine : 10 ^ 16 * (interval.denominator * 10 ^ unit.toNat) ≤
      interval.value * 10 ^ (-unit).toNat) :
    (gridPoint? interval unit).isSome = true := by
  have step : 0 < interval.denominator * 10 ^ unit.toNat :=
    Nat.mul_pos wide.denominator_pos (Nat.pow_pos (by decide))
  have inside := wide.inside (Nat.pow_pos (by decide)) fine
    (roundHalfEven_near (interval.value * 10 ^ (-unit).toNat) step)
  rw [gridPoint?_eq]
  dsimp only
  rw [if_pos (Interval.contains_of_between inside.1 inside.2)]
  rfl

/-! ## Writing a grid point without zeros at the end -/

/-- Digits that begin with no zero. -/
structure Digits.IsProper (number : Digits) : Prop where
  all : AllDigits number.digits
  given : number.digits ≠ []
  head : number.digits.head? ≠ some '0'

theorem Digits.IsProper.noZero {digits : Digits} (proper : digits.IsProper) {tail : List Char} :
    digits.digits ≠ '0' :: tail := by
  intro zero
  exact proper.head (by rw [zero]; rfl)

def Digits.significand (number : Digits) : Nat := Nat.ofDigitChars 10 number.digits 0

/-- The digits of a grid point and the zeros after them. -/
theorem Digits.exists_zeros (count : Nat) (unit : Int) :
    ∃ zeros, Nat.toDigits 10 count = (ofGridPoint count unit).digits ++ List.replicate zeros '0' ∧
      (ofGridPoint count unit).point =
        unit + (ofGridPoint count unit).digits.length + zeros := by
  have parts := List.rdropWhile_append_rtakeWhile (p := (· == '0')) (l := Nat.toDigits 10 count)
  refine ⟨((Nat.toDigits 10 count).rtakeWhile (· == '0')).length, ?_, ?_⟩
  · have zeros : (Nat.toDigits 10 count).rtakeWhile (· == '0') =
        List.replicate ((Nat.toDigits 10 count).rtakeWhile (· == '0')).length '0' :=
      List.eq_replicate_of_mem (fun character member => by
        simpa using List.mem_rtakeWhile_imp member)
    rw [← zeros]
    exact parts.symm
  · have length := congrArg List.length parts
    rw [List.length_append] at length
    change unit + ((Nat.toDigits 10 count).length : Int) =
      unit + (((Nat.toDigits 10 count).rdropWhile (· == '0')).length : Int) + _
    omega

theorem Digits.isProper_ofGridPoint {count : Nat} (positive : 0 < count) (unit : Int) :
    (ofGridPoint count unit).IsProper := by
  obtain ⟨zeros, parts, -⟩ := exists_zeros count unit
  have all := AllDigits.toDigits count
  have head := head_toDigits_ne_zero positive
  rw [parts, AllDigits.append_iff] at all
  rw [parts] at head
  have given : (ofGridPoint count unit).digits ≠ [] := by
    intro none
    rw [none, List.nil_append] at head parts
    cases zeros with
    | zero => exact Nat.toDigits_ne_nil parts
    | succ zeros => exact head rfl
  refine ⟨all.1, given, ?_⟩
  rwa [List.head?_append, Option.or_of_isSome (by simpa using given)] at head

theorem Digits.significand_ofGridPoint (count : Nat) (unit : Int) :
    ∃ zeros : Nat, (ofGridPoint count unit).significand * 10 ^ zeros = count ∧
      (ofGridPoint count unit).point = unit + (ofGridPoint count unit).digits.length + zeros := by
  obtain ⟨zeros, parts, point⟩ := exists_zeros count unit
  refine ⟨zeros, ?_, point⟩
  have value : Nat.ofDigitChars 10 (Nat.toDigits 10 count) 0 = count :=
    Nat.ofDigitChars_ten_toDigits
  rw [parts, Nat.ofDigitChars_append, Nat.ofDigitChars_replicate_zero, Nat.mul_comm] at value
  exact value

/-! ## The digits chosen -/

/-- Digits that come from a point of a grid of at most seventeen digits that is not above an
interval. -/
structure Digits.StandFor (number : Digits) (interval : Interval) (count : Nat) (unit : Int) :
    Prop where
  written : number = .ofGridPoint count unit
  positive : 0 < count
  few : count ≤ 10 ^ 17
  notAbove : count * (interval.denominator * 10 ^ unit.toNat) ≤ interval.high * 10 ^ (-unit).toNat

theorem standFor_of_gridPoint {interval : Interval} (wide : interval.IsWide) {digits : Nat}
    (some : 0 < digits) (few : digits ≤ 17) {count : Nat}
    (chosen : gridPoint? interval
      (decimalPoint interval.value interval.denominator - digits) = .some count) :
    (Digits.ofGridPoint count
      (decimalPoint interval.value interval.denominator - digits)).StandFor interval count
      (decimalPoint interval.value interval.denominator - digits) := by
  obtain ⟨⟨lower, upper⟩, inside⟩ := gridPoint?_bounds chosen
  have notAbove := Interval.le_high_of_contains inside
  have least := decimalPoint_le wide.value_pos interval.denominator
  have greatest := lt_decimalPoint interval.value wide.denominator_pos
  generalize decimalPoint interval.value interval.denominator = point at *
  have step : 0 < interval.denominator * 10 ^ (point - digits).toNat :=
    Nat.mul_pos wide.denominator_pos (Nat.pow_pos (by decide))
  refine ⟨rfl, ?_, ?_, notAbove⟩
  · refine Nat.lt_of_lt_of_le (Nat.div_pos ?_ step) lower
    have shared : ((-(point - digits)).toNat : Int) -
        ((point - digits).toNat + (digits - 1) : Nat) = -(point - 1) := by omega
    have scaled := scaled_le_iff interval.denominator interval.value shared
    rw [neg_neg] at scaled
    refine Nat.le_trans (Nat.mul_le_mul_left _ ?_) (scaled.mpr least)
    exact Nat.pow_le_pow_right (by decide) (by omega)
  · have shared : ((point - digits).toNat + digits : Nat) - ((-(point - digits)).toNat : Int) =
        point := by omega
    have below := (scaled_lt_iff interval.value interval.denominator shared).mpr greatest
    rw [pow_add, ← Nat.mul_assoc, Nat.mul_comm _ (10 ^ digits)] at below
    have quotient := (Nat.div_lt_iff_lt_mul step).mpr below
    have power : 10 ^ digits ≤ 10 ^ 17 := Nat.pow_le_pow_right (by decide) few
    omega

theorem shortestFrom_standsFor {interval : Interval} (wide : interval.IsWide)
    (remaining digits : Nat) (some : 0 < digits) (total : remaining + digits = 18)
    (left : 0 < remaining) :
    ∃ count unit, (shortestFrom interval (decimalPoint interval.value interval.denominator)
      remaining digits).StandFor interval count unit := by
  induction remaining generalizing digits with
  | zero => omega
  | succ remaining induction =>
      rw [shortestFrom]
      split
      next count chosen => exact ⟨count, _, standFor_of_gridPoint wide some (by omega) chosen⟩
      next noneChosen =>
          rcases Nat.eq_zero_or_pos remaining with rfl | more
          · -- on the last grid there is a neighbour inside
            obtain rfl : digits = 17 := by omega
            have fine := decimalPoint_le wide.value_pos interval.denominator
            have found := gridPoint?_isSome wide
              (decimalPoint interval.value interval.denominator - (17 : Nat)) (by
                generalize decimalPoint interval.value interval.denominator = point at fine ⊢
                have shared : ((-(point - (17 : Nat))).toNat : Int) -
                    ((point - (17 : Nat)).toNat + 16 : Nat) = -(point - 1) := by omega
                have iff := scaled_le_iff interval.denominator interval.value shared
                rw [neg_neg] at iff
                have scaled := iff.mpr fine
                rw [pow_add, ← Nat.mul_assoc, Nat.mul_comm _ (10 ^ 16)] at scaled
                exact scaled)
            rw [noneChosen] at found
            cases found
          · exact induction (digits + 1) (by omega) (by omega) more

theorem shortest_standsFor {interval : Interval} (wide : interval.IsWide) :
    ∃ count unit, (shortest interval).StandFor interval count unit :=
  shortestFrom_standsFor wide 17 1 (by decide) rfl (by decide)

end CandleAlerts.Decimal
