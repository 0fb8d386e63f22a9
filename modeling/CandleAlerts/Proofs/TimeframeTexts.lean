import CandleAlerts.Market.Timeframe
import CandleAlerts.Proofs.SignatureTexts

/-!
The texts of timeframes read back.

A timeframe is written with the greatest unit that divides it, so nothing is left over and the count
and the unit give its length again.
-/

namespace CandleAlerts.Timeframe

open Decimal Text

/-- Digits and a letter stand without blanks around them. -/
theorem trimBlanks_count {digits : List Char} (all : AllDigits digits) (given : digits ≠ [])
    {unit : Char} (noBlank : isBlank unit = false) :
    trimBlanks (digits ++ [unit]) = digits ++ [unit] := by
  obtain ⟨first, rest, parts⟩ := List.exists_cons_of_ne_nil given
  rw [parts, AllDigits.cons_iff] at all
  have start : trimStart (digits ++ [unit]) = digits ++ [unit] := by
    rw [parts, trimStart, List.cons_append,
      List.dropWhile_cons_of_neg (by simp [isBlank_of_isDigit all.1])]
  rw [trimBlanks, start, trimEnd, List.reverse_append, List.reverse_singleton,
    List.singleton_append, List.dropWhile_cons_of_neg (by simp [noBlank]), List.reverse_cons,
    List.reverse_reverse]

/-- A number of units is read as the timeframe of its length. -/
theorem parse?_count (timeframe : Timeframe) {count length : Nat} {unit : Char}
    (noDigit : unit.isDigit = false) (noBlank : isBlank unit = false)
    (isUnit : unitSeconds? [unit] = some length) (whole : count * length = timeframe.seconds) :
    parse? (String.ofList (Nat.toDigits 10 count ++ [unit])) = some timeframe := by
  have all := AllDigits.toDigits count
  have given : Nat.toDigits 10 count ≠ [] := Nat.toDigits_ne_nil
  have value : Nat.ofDigitChars 10 (Nat.toDigits 10 count) 0 = count :=
    Nat.ofDigitChars_ten_toDigits
  have ends : ∀ character ∈ [unit].head?, character.isDigit = false := by simpa using noDigit
  have long := timeframe.wholeMinutes.1
  have someCount : count ≠ 0 := by
    rintro rfl
    rw [Nat.zero_mul] at whole
    omega
  have someLength : length ≠ 0 := by
    rintro rfl
    rw [Nat.mul_zero] at whole
    omega
  have bounded : count ≤ UInt64.size - 1 := by
    have fits := timeframe.fitsWord
    have grows := Nat.le_mul_of_pos_right count (Nat.pos_of_ne_zero someLength)
    omega
  have read : (readNat (UInt64.size - 1) (Nat.toDigits 10 count)).toOption = some count := by
    rw [readNat_eq_ok all given (by rw [value]; exact bounded), value]
    rfl
  have trimmed := trimBlanks_count all given noBlank
  have digits := all.takeWhile_append ends
  have rest := all.dropWhile_append ends
  have nonempty : (Nat.toDigits 10 count ++ [unit]).isEmpty = false := by simp
  have digitsGiven : (Nat.toDigits 10 count).isEmpty = false := List.isEmpty_eq_false_iff.2 given
  have seconds : ofSeconds? timeframe.seconds = some timeframe :=
    dif_pos ⟨timeframe.wholeMinutes, timeframe.fitsWord⟩
  simp only [parse?, String.toList_ofList, trimmed, nonempty, digits, rest, digitsGiven, read,
    isUnit, whole, seconds, Bool.false_eq_true, if_false, someCount]

/-- Every timeframe is read back from its text. -/
theorem parse?_text (timeframe : Timeframe) : parse? timeframe.text = some timeframe := by
  have wholeMinutes := timeframe.wholeMinutes.2
  simp only [text, write]
  split
  next weeks =>
      exact timeframe.parse?_count rfl rfl rfl (Nat.div_mul_cancel (Nat.dvd_of_mod_eq_zero weeks))
  next =>
      split
      next days =>
          exact timeframe.parse?_count rfl rfl rfl
            (Nat.div_mul_cancel (Nat.dvd_of_mod_eq_zero days))
      next =>
          split
          next hours =>
              exact timeframe.parse?_count rfl rfl rfl
                (Nat.div_mul_cancel (Nat.dvd_of_mod_eq_zero hours))
          next =>
              exact timeframe.parse?_count rfl rfl rfl
                (Nat.div_mul_cancel (Nat.dvd_of_mod_eq_zero wholeMinutes))

end CandleAlerts.Timeframe
