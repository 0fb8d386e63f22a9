import CandleAlerts.Json.Write

/-!
The texts of JSON numbers.
-/

namespace CandleAlerts

namespace Decimal

theorem writeInt_ne_nil (number : Int) : writeInt number ≠ [] := by
  simp only [writeInt]
  split
  · simp
  · exact Nat.toDigits_ne_nil

theorem inStyle_json_ne_nil (digits : Digits) : digits.inStyle .json ≠ [] := by
  simp only [Digits.inStyle, Style.json]
  split
  · simp only [Digits.positional]
    split
    · simp
    · split <;> simp
  · simp [Digits.scientific]

theorem writeFloat_json_ne_nil (number : Float) : writeFloat .json number ≠ [] := by
  simp only [writeFloat]
  split
  · simp
  · simp
  · simp [Style.json]
  · simp [inStyle_json_ne_nil]

end Decimal

namespace Json

theorem numberText_ne_nil (number : Number) : numberText number ≠ [] := by
  cases number with
  | integer value => exact Decimal.writeInt_ne_nil value
  | double value => exact Decimal.writeFloat_json_ne_nil value

end Json

end CandleAlerts
