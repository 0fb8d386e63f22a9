import CandleAlerts.Dispatch.Basic
import CandleAlerts.Proofs.DigitTexts
import Mathlib.Data.List.Basic

/-!
Event ids tell alerts and bars apart.

The id of an event ends in the opening time of the bar, which is written without a colon, so the
last colon of an id separates its two parts, whatever the id of the alert may be.
-/

namespace CandleAlerts

namespace Decimal

theorem toDigits_injective : Function.Injective (Nat.toDigits 10) := by
  intro first second same
  have read := congrArg (fun digits => Nat.ofDigitChars 10 digits 0) same
  simp only [Nat.ofDigitChars_ten_toDigits] at read
  exact read

theorem minus_not_mem_toDigits (number : Nat) : '-' ∉ Nat.toDigits 10 number := by
  intro member
  have digit := Nat.isDigit_of_mem_toDigits (by decide) (by decide) member
  cases digit

theorem writeInt_injective : Function.Injective writeInt := by
  intro first second same
  simp only [writeInt] at same
  split at same
  · split at same
    · have magnitudes := toDigits_injective (List.cons.inj same).2
      omega
    · have member : '-' ∈ Nat.toDigits 10 second.natAbs := same ▸ List.mem_cons_self
      exact absurd member (minus_not_mem_toDigits _)
  · split at same
    · have member : '-' ∈ Nat.toDigits 10 first.natAbs := same ▸ List.mem_cons_self
      exact absurd member (minus_not_mem_toDigits _)
    · have magnitudes := toDigits_injective same
      omega

end Decimal

/-- Lists are split alike by the last occurrence of a value. -/
theorem append_cons_inj_of_not_mem {α : Type} {separator : α}
    {first second firstRest secondRest : List α}
    (firstLast : separator ∉ firstRest) (secondLast : separator ∉ secondRest)
    (same : first ++ separator :: firstRest = second ++ separator :: secondRest) :
    first = second ∧ firstRest = secondRest := by
  rcases List.append_eq_append_iff.1 same with ⟨middle, longer, rests⟩ | ⟨middle, longer, rests⟩
  · cases middle with
    | nil =>
        rw [List.append_nil] at longer
        exact ⟨longer.symm, (List.cons.inj rests).2⟩
    | cons head tail =>
        have split := (List.cons.inj rests).2
        exact absurd (split ▸ List.mem_append_right tail List.mem_cons_self) firstLast
  · cases middle with
    | nil =>
        rw [List.append_nil] at longer
        exact ⟨longer, (List.cons.inj rests).2.symm⟩
    | cons head tail =>
        have split := (List.cons.inj rests).2
        exact absurd (split ▸ List.mem_append_right tail List.mem_cons_self) secondLast

/-- Two alerts, and two bars, have different events. -/
theorem eventIdOf_inj {firstId secondId : String} {firstTime secondTime : Int} :
    eventIdOf firstId firstTime = eventIdOf secondId secondTime ↔
      firstId = secondId ∧ firstTime = secondTime := by
  constructor
  · intro same
    have characters := congrArg String.toList same
    simp only [eventIdOf, String.toList_append, String.toList_ofList] at characters
    have colon : (":" : String).toList = [':'] := rfl
    rw [colon, List.append_assoc, List.append_assoc, List.singleton_append,
      List.singleton_append] at characters
    have noColon (number : Int) : ':' ∉ Decimal.writeInt number := by
      intro member
      rcases Decimal.mem_writeInt member with sign | digit
      · cases sign
      · cases digit
    rcases append_cons_inj_of_not_mem (noColon _) (noColon _) characters with ⟨ids, times⟩
    exact ⟨String.toList_injective ids, Decimal.writeInt_injective times⟩
  · rintro ⟨rfl, rfl⟩
    rfl

theorem dispatchKey_inj {first second : String} :
    dispatchKey first = dispatchKey second ↔ first = second := by
  constructor
  · intro same
    have characters := congrArg String.toList same
    simp only [dispatchKey, String.toList_append] at characters
    exact String.toList_injective (List.append_cancel_left characters)
  · intro same
    rw [same]

end CandleAlerts
