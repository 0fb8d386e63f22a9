import Mathlib

/-!
How doubles compare.

What is no number differs from itself and cannot be compared. Finite doubles equal themselves, and
of two finite doubles one is at most the other.
-/

section

open Float.Model

namespace CandleAlerts.Float

/-- The two ways round, comparisons answer the opposite. -/
theorem compare_swap (left right : UnpackedFloat) :
    right.compare left = (left.compare right).map Ordering.swap := by
  cases left with
  | notANumber => cases right <;> rfl
  | infinity leftSign =>
      cases right with
      | notANumber => cases leftSign <;> rfl
      | infinity rightSign => cases leftSign <;> cases rightSign <;> rfl
      | zero rightSign => cases leftSign <;> rfl
      | finite rightSign => cases leftSign <;> cases rightSign <;> rfl
  | zero leftSign =>
      cases right with
      | notANumber => rfl
      | infinity rightSign => cases rightSign <;> rfl
      | zero rightSign => rfl
      | finite rightSign => cases rightSign <;> rfl
  | finite leftSign leftMantissa leftExponent =>
      cases right with
      | notANumber => cases leftSign <;> rfl
      | infinity rightSign => cases leftSign <;> cases rightSign <;> rfl
      | zero rightSign => cases leftSign <;> rfl
      | finite rightSign rightMantissa rightExponent =>
          have exponents : compare rightExponent leftExponent =
              (compare leftExponent rightExponent).swap := Std.OrientedCmp.eq_swap
          have mantissas : compare rightMantissa leftMantissa =
              (compare leftMantissa rightMantissa).swap := Std.OrientedCmp.eq_swap
          cases leftSign <;> cases rightSign <;>
            simp [UnpackedFloat.compare, exponents, mantissas, Ordering.swap_then]

/-- A double that is a number equals itself. -/
theorem beq_self_of_not_isNaN {value : Float} (number : value.isNaN = false) :
    (value == value) = true := by
  rw [Float.beq_self_iff]
  rintro rfl
  revert number
  decide

theorem not_isNaN_of_isFinite {value : Float} (finite : value.isFinite = true) :
    value.isNaN = false := by
  change value.toModel.unpack.isFinite = true at finite
  change value.toModel.unpack.isNaN = false
  cases unpacked : value.toModel.unpack with
  | notANumber =>
      rw [unpacked] at finite
      cases finite
  | infinity sign => rfl
  | zero sign => rfl
  | finite sign => rfl

/-- Finite numbers can be compared. -/
theorem exists_compare {left right : UnpackedFloat} (leftFinite : left.isFinite = true)
    (rightFinite : right.isFinite = true) : ∃ order, left.compare right = some order := by
  cases left with
  | notANumber => cases leftFinite
  | infinity sign => cases leftFinite
  | zero leftSign =>
      cases right with
      | notANumber => cases rightFinite
      | infinity sign => cases rightFinite
      | zero sign => exact ⟨_, rfl⟩
      | finite sign => cases sign <;> exact ⟨_, rfl⟩
  | finite leftSign =>
      cases right with
      | notANumber => cases rightFinite
      | infinity sign => cases rightFinite
      | zero sign => cases leftSign <;> exact ⟨_, rfl⟩
      | finite sign => cases leftSign <;> cases sign <;> exact ⟨_, rfl⟩

theorem lt_iff (left right : Float) :
    left < right ↔ left.toModel.unpack.compare right.toModel.unpack = some .lt := by
  change decide (left.toModel < right.toModel) = true ↔ _
  rw [decide_eq_true_iff]
  exact beq_iff_eq

theorem le_iff (left right : Float) :
    left ≤ right ↔ (left.toModel.unpack.compare right.toModel.unpack).any Ordering.isLE = true := by
  change decide (left.toModel ≤ right.toModel) = true ↔ _
  rw [decide_eq_true_iff]
  rfl

theorem le_of_not_lt {low high : Float} (lowFinite : low.isFinite = true)
    (highFinite : high.isFinite = true) (ordered : ¬ high < low) : low ≤ high := by
  have compared : ∃ order, high.toModel.unpack.compare low.toModel.unpack = some order :=
    exists_compare highFinite lowFinite
  rcases compared with ⟨order, compared⟩
  rw [lt_iff, compared] at ordered
  rw [le_iff, compare_swap, compared]
  cases order with
  | lt => exact absurd rfl ordered
  | eq => rfl
  | gt => rfl

/-! ## Values that are not finite -/

/-- An infinite value lies beyond every finite number. -/
theorem compare_infinity {value : UnpackedFloat} (finite : value.isFinite = true)
    (sign : UnpackedFloat.Sign) :
    value.compare (.infinity sign) =
      some (match sign with | .positive => .lt | .negative => .gt) := by
  cases value with
  | notANumber => cases finite
  | infinity other => cases finite
  | zero other => cases sign <;> rfl
  | finite other => cases other <;> cases sign <;> rfl

/-- What is not finite lies on one side of all finite numbers, or compares with none of them. -/
theorem compare_of_not_finite {left other right : UnpackedFloat} (leftFinite : left.isFinite = true)
    (otherFinite : other.isFinite = true) (notFinite : right.isFinite = false) :
    left.compare right = other.compare right ∧ left.compare right ≠ some .eq := by
  cases right with
  | zero sign => cases notFinite
  | finite sign => cases notFinite
  | notANumber =>
      have incomparable (value : UnpackedFloat) : value.compare .notANumber = none := by
        cases value <;> rfl
      rw [incomparable, incomparable]
      exact ⟨rfl, nofun⟩
  | infinity sign =>
      rw [compare_infinity leftFinite, compare_infinity otherFinite]
      refine ⟨rfl, ?_⟩
      cases sign <;> exact nofun

/-- A difference has no upper bound: it is no number, or the positive infinity. -/
def Boundless (difference : UnpackedFloat) : Prop :=
  difference = .notANumber ∨ difference = .infinity .positive

/-- One of the two differences with what is not finite has no bound. -/
theorem boundless_sub {left right : UnpackedFloat} (leftFinite : left.isFinite = true)
    (notFinite : right.isFinite = false) :
    Boundless (.sub .binary64 left right) ∨ Boundless (.sub .binary64 right left) := by
  cases right with
  | zero sign => cases notFinite
  | finite sign => cases notFinite
  | notANumber => exact .inr (.inl rfl)
  | infinity sign =>
      cases sign with
      | positive =>
          refine .inr (.inr ?_)
          cases left with
          | notANumber => cases leftFinite
          | infinity sign => cases leftFinite
          | zero sign => rfl
          | finite sign => rfl
      | negative =>
          refine .inl (.inr ?_)
          cases left with
          | notANumber => cases leftFinite
          | infinity sign => cases leftFinite
          | zero sign => rfl
          | finite sign => rfl

theorem boundless_unpack_pack {difference : UnpackedFloat} (boundless : Boundless difference) :
    Boundless (Float.Model.pack difference).unpack := by
  rcases boundless with rfl | rfl
  · exact .inl rfl
  · exact .inr rfl

theorem not_lt_of_boundless {value bound : Float} (boundless : Boundless value.toModel.unpack)
    (boundFinite : bound.isFinite = true) : ¬ value < bound := by
  rw [lt_iff, compare_swap bound.toModel.unpack]
  rcases boundless with unpacked | unpacked
  · rw [unpacked]
    cases bound.toModel.unpack <;> exact nofun
  · rw [unpacked, compare_infinity boundFinite]
    exact nofun

section NotFinite

variable {left right : Float} (leftFinite : left.isFinite = true)
  (notFinite : right.isFinite = false)

include leftFinite notFinite

/-- A finite number is compared with what is not finite as zero is. -/
theorem compare_eq_compare_zero :
    left.toModel.unpack.compare right.toModel.unpack =
        (0 : Float).toModel.unpack.compare right.toModel.unpack ∧
      left.toModel.unpack.compare right.toModel.unpack ≠ some .eq := by
  have zeroFinite : (0 : Float).isFinite = true := by decide
  exact compare_of_not_finite leftFinite zeroFinite notFinite

theorem lt_iff_zero_lt : left < right ↔ 0 < right := by
  rw [lt_iff, lt_iff, (compare_eq_compare_zero leftFinite notFinite).1]

theorem gt_iff_lt_zero : right < left ↔ right < 0 := by
  rw [lt_iff, lt_iff, compare_swap left.toModel.unpack, compare_swap (0 : Float).toModel.unpack,
    (compare_eq_compare_zero leftFinite notFinite).1]

theorem le_iff_zero_lt : left ≤ right ↔ 0 < right := by
  have apart := (compare_eq_compare_zero leftFinite notFinite).2
  rw [← lt_iff_zero_lt leftFinite notFinite, le_iff, lt_iff]
  cases compared : left.toModel.unpack.compare right.toModel.unpack with
  | none => simp
  | some order => cases order <;> simp_all

theorem ge_iff_lt_zero : right ≤ left ↔ right < 0 := by
  have apart := (compare_eq_compare_zero leftFinite notFinite).2
  rw [← gt_iff_lt_zero leftFinite notFinite, le_iff, lt_iff, compare_swap left.toModel.unpack]
  cases compared : left.toModel.unpack.compare right.toModel.unpack with
  | none => simp
  | some order => cases order <;> simp_all

/-- A finite number is not near to what is not finite. -/
theorem not_near {bound : Float} (boundFinite : bound.isFinite = true) :
    ¬ (left - right < bound ∧ right - left < bound) := by
  rintro ⟨leftNear, rightNear⟩
  rcases boundless_sub leftFinite notFinite with boundless | boundless
  · exact not_lt_of_boundless (boundless_unpack_pack boundless) boundFinite leftNear
  · exact not_lt_of_boundless (boundless_unpack_pack boundless) boundFinite rightNear

end NotFinite

end CandleAlerts.Float

end
