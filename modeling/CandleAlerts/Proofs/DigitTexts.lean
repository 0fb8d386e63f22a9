import CandleAlerts.Decimal.Read
import CandleAlerts.Decimal.Written
import CandleAlerts.Text.Hex
import Mathlib.Tactic.Ring

/-!
Digits and the numbers they stand for.

The readers gather a number from its digits one by one. On digits that is the reading of the core
library, so what it knows of the digits of a number holds of the readers: a number that was written
is read back, digit by digit or as a signed word.
-/

namespace CandleAlerts

theorem Text.hexValue?_hexDigit : ∀ value < 16, hexValue? (hexDigit value) = some value := by
  decide

namespace Decimal

/-- A text of digits. -/
def AllDigits (text : List Char) : Prop := ∀ character ∈ text, character.isDigit = true

namespace AllDigits

@[simp] theorem nil : AllDigits [] := by
  simp [AllDigits]

@[simp] theorem cons_iff {head : Char} {tail : List Char} :
    AllDigits (head :: tail) ↔ head.isDigit = true ∧ AllDigits tail := by
  simp [AllDigits]

@[simp] theorem append_iff {first second : List Char} :
    AllDigits (first ++ second) ↔ AllDigits first ∧ AllDigits second := by
  simp only [AllDigits, List.mem_append]
  exact ⟨fun all => ⟨fun character member => all character (.inl member),
      fun character member => all character (.inr member)⟩,
    fun both character member => member.elim (both.1 character) (both.2 character)⟩

theorem replicate_zero (count : Nat) : AllDigits (List.replicate count '0') := by
  intro character member
  rw [List.eq_of_mem_replicate member]
  decide

theorem toDigits (number : Nat) : AllDigits (Nat.toDigits 10 number) :=
  fun _ member => Nat.isDigit_of_mem_toDigits (by decide) (by decide) member

/-- Digits are taken as far as they go. -/
theorem takeWhile_append {text : List Char} (all : AllDigits text) {rest : List Char}
    (ends : ∀ character ∈ rest.head?, character.isDigit = false) :
    (text ++ rest).takeWhile Char.isDigit = text := by
  rw [List.takeWhile_append_of_pos all]
  cases rest with
  | nil => simp
  | cons head tail => simp [ends head (by simp)]

theorem dropWhile_append {text : List Char} (all : AllDigits text) {rest : List Char}
    (ends : ∀ character ∈ rest.head?, character.isDigit = false) :
    (text ++ rest).dropWhile Char.isDigit = rest := by
  rw [List.dropWhile_append_of_pos all]
  cases rest with
  | nil => simp
  | cons head tail => simp [ends head (by simp)]

end AllDigits

/-! ## The value of digits -/

theorem digit?_of_isDigit {character : Char} (isDigit : character.isDigit = true) :
    digit? character = some (character.toNat - '0'.toNat) := by
  simp [digit?, isDigit]

/-- The readers' way of gathering digits is that of the core library. -/
theorem gathered_eq {text : List Char} (all : AllDigits text) (sofar : Nat) :
    text.foldl (fun sofar character => sofar * 10 + (digit? character).getD 0) sofar =
      Nat.ofDigitChars 10 text sofar := by
  induction text generalizing sofar with
  | nil => rfl
  | cons head tail induction =>
      rw [AllDigits.cons_iff] at all
      rw [List.foldl_cons, induction all.2, Nat.ofDigitChars_cons, digit?_of_isDigit all.1,
        Nat.mul_comm]
      rfl

theorem toNat_of_isDigit {character : Char} (isDigit : character.isDigit = true) :
    48 ≤ character.toNat ∧ character.toNat ≤ 57 := by
  simpa [Char.isDigit, Char.le_def, UInt32.le_iff_toNat_le] using isDigit

theorem value_of_isDigit {character : Char} (isDigit : character.isDigit = true) :
    character.toNat - '0'.toNat < 10 := by
  have range := toNat_of_isDigit isDigit
  have zero : '0'.toNat = 48 := rfl
  omega

theorem ofDigitChars_lt {text : List Char} (all : AllDigits text) :
    Nat.ofDigitChars 10 text 0 < 10 ^ text.length := by
  induction text with
  | nil => simp
  | cons head tail induction =>
      rw [AllDigits.cons_iff] at all
      have step := induction all.2
      have digit := value_of_isDigit all.1
      rw [Nat.ofDigitChars_cons, Nat.ofDigitChars_eq_ofDigitChars_zero, List.length_cons, pow_succ]
      calc 10 ^ tail.length * (10 * 0 + (head.toNat - '0'.toNat)) + Nat.ofDigitChars 10 tail 0
          < 10 ^ tail.length * (10 * 0 + (head.toNat - '0'.toNat)) + 10 ^ tail.length := by
            omega
        _ = 10 ^ tail.length * (head.toNat - '0'.toNat + 1) := by ring
        _ ≤ 10 ^ tail.length * 10 := Nat.mul_le_mul_left _ digit

theorem le_ofDigitChars (text : List Char) (sofar : Nat) :
    sofar ≤ Nat.ofDigitChars 10 text sofar := by
  rw [Nat.ofDigitChars_eq_ofDigitChars_zero]
  have positive : 0 < 10 ^ text.length := Nat.pow_pos (by decide)
  exact Nat.le_trans (Nat.le_mul_of_pos_left _ positive) (Nat.le_add_right _ _)

/-- Only zero is written with a zero in front. -/
theorem head_toDigits_ne_zero {number : Nat} (positive : 0 < number) :
    (Nat.toDigits 10 number).head? ≠ some '0' := by
  induction number using Nat.strong_induction_on with
  | _ number induction =>
      rw [Nat.toDigits_eq_if (by decide)]
      split
      next small =>
          have digits : ∀ digit < 10, 0 < digit → [digit.digitChar].head? ≠ some '0' := by decide
          exact digits number small positive
      next large =>
          have shorter := induction (number / 10) (by omega) (by omega)
          rw [List.head?_append, Option.or_of_isSome (by simp [Nat.toDigits_ne_nil])]
          exact shorter

/-! ## Integers read back -/

theorem mem_writeInt {number : Int} {character : Char} (member : character ∈ writeInt number) :
    character = '-' ∨ character.isDigit = true := by
  have digits := AllDigits.toDigits number.natAbs
  unfold writeInt at member
  split at member
  · rcases List.mem_cons.mp member with sign | digit
    · exact .inl sign
    · exact .inr (digits character digit)
  · exact .inr (digits character member)

theorem readDigits_eq_ok {greatest : Nat} (past : IntegerFault) {text : List Char}
    (all : AllDigits text) {sofar : Nat} (fits : Nat.ofDigitChars 10 text sofar ≤ greatest) :
    readDigits greatest past sofar text = .ok (Nat.ofDigitChars 10 text sofar) := by
  induction text generalizing sofar with
  | nil => rfl
  | cons head tail induction =>
      rw [AllDigits.cons_iff] at all
      rw [Nat.ofDigitChars_cons, Nat.mul_comm] at fits ⊢
      have small := Nat.le_trans (le_ofDigitChars tail _) fits
      rw [readDigits, digit?_of_isDigit all.1]
      exact (if_neg (Nat.not_lt.mpr small)).trans (induction all.2 fits)

theorem of_readDigits_eq_ok {greatest : Nat} {past : IntegerFault} {text : List Char}
    {sofar number : Nat} (within : sofar ≤ greatest)
    (read : readDigits greatest past sofar text = .ok number) :
    AllDigits text ∧ number = Nat.ofDigitChars 10 text sofar ∧ number ≤ greatest := by
  induction text generalizing sofar with
  | nil =>
      cases read
      exact ⟨.nil, rfl, within⟩
  | cons head tail induction =>
      by_cases isDigit : head.isDigit = true
      · rw [readDigits, digit?_of_isDigit isDigit] at read
        dsimp only at read
        split at read
        · cases read
        · rename_i fits
          obtain ⟨all, value, bound⟩ := induction (Nat.le_of_not_lt fits) read
          rw [Nat.ofDigitChars_cons, Nat.mul_comm 10]
          exact ⟨AllDigits.cons_iff.2 ⟨isDigit, all⟩, value, bound⟩
      · simp [readDigits, digit?, isDigit] at read

theorem readNat_eq_ok {greatest : Nat} {text : List Char} (all : AllDigits text)
    (given : text ≠ []) (fits : Nat.ofDigitChars 10 text 0 ≤ greatest) :
    readNat greatest text = .ok (Nat.ofDigitChars 10 text 0) := by
  have read := readDigits_eq_ok .tooLarge all fits
  cases text with
  | nil => exact absurd rfl given
  | cons head tail =>
      have noSign : head ≠ '+' := by
        rintro rfl
        exact absurd (AllDigits.cons_iff.mp all).1 (by decide)
      unfold readNat
      split
      · contradiction
      · simp_all
      · simp_all
      · exact read

/-- The ways to write a natural number: digits, with or without a plus sign in front. -/
inductive WritesNatural : List Char → Nat → Prop
  | unsigned {digits : List Char} (all : AllDigits digits) (given : digits ≠ []) :
      WritesNatural digits (Nat.ofDigitChars 10 digits 0)
  | plus {digits : List Char} (all : AllDigits digits) (given : digits ≠ []) :
      WritesNatural ('+' :: digits) (Nat.ofDigitChars 10 digits 0)

/-- A natural number is read from every way to write it, up to the bound, and from nothing else. -/
theorem readNat_eq_ok_iff (greatest : Nat) (text : List Char) (number : Nat) :
    readNat greatest text = .ok number ↔ WritesNatural text number ∧ number ≤ greatest := by
  constructor
  · intro read
    unfold readNat at read
    split at read
    · cases read
    · cases read
    · rename_i digits given
      obtain ⟨all, rfl, bound⟩ := of_readDigits_eq_ok (Nat.zero_le _) read
      exact ⟨.plus all (fun empty => given empty), bound⟩
    · rename_i given _ _
      obtain ⟨all, rfl, bound⟩ := of_readDigits_eq_ok (Nat.zero_le _) read
      exact ⟨.unsigned all (fun empty => given empty), bound⟩
  · rintro ⟨writes, fits⟩
    cases writes with
    | unsigned all given => exact readNat_eq_ok all given fits
    | @plus digits all given =>
        cases digits with
        | nil => exact absurd rfl given
        | cons head tail => exact readDigits_eq_ok .tooLarge all fits

/-- A text writes one number at most. -/
theorem WritesNatural.unique {text : List Char} {first second : Nat}
    (writesFirst : WritesNatural text first) (writesSecond : WritesNatural text second) :
    first = second := by
  have readFirst := (readNat_eq_ok_iff (max first second) text first).2
    ⟨writesFirst, Nat.le_max_left _ _⟩
  have readSecond := (readNat_eq_ok_iff (max first second) text second).2
    ⟨writesSecond, Nat.le_max_right _ _⟩
  exact Except.ok.inj (readFirst.symm.trans readSecond)

theorem readInt64_of_digits {text : List Char} (all : AllDigits text) (given : text ≠ [])
    (fits : Nat.ofDigitChars 10 text 0 ≤ Word.greatest.toNat) :
    readInt64 text = .ok (Nat.ofDigitChars 10 text 0 : Nat) := by
  have read := readDigits_eq_ok .tooLarge all fits
  cases text with
  | nil => exact absurd rfl given
  | cons head tail =>
      have notMark : ∀ mark, mark.isDigit = false → head ≠ mark := by
        rintro mark noDigit rfl
        exact Bool.false_ne_true (noDigit.symm.trans (AllDigits.cons_iff.mp all).1)
      have noPlus := notMark '+' (by decide)
      have noMinus := notMark '-' (by decide)
      unfold readInt64
      split
      · contradiction
      · simp_all
      · simp_all
      · simp_all
      · simp_all
      · rw [read]
        rfl

theorem readInt64_of_minus {text : List Char} (all : AllDigits text) (given : text ≠ [])
    (fits : Nat.ofDigitChars 10 text 0 ≤ Word.least.natAbs) :
    readInt64 ('-' :: text) = .ok (-(Nat.ofDigitChars 10 text 0 : Nat)) := by
  have read := readDigits_eq_ok .tooSmall all fits
  cases text with
  | nil => exact absurd rfl given
  | cons head tail =>
      change (readDigits Word.least.natAbs .tooSmall 0 (head :: tail)).map _ = _
      rw [read]
      rfl

/-- A signed word that was written is read back. -/
theorem readInt64_writeInt {number : Int} (holds : Word.Holds number) :
    readInt64 (writeInt number) = .ok number := by
  have all := AllDigits.toDigits number.natAbs
  have value : Nat.ofDigitChars 10 (Nat.toDigits 10 number.natAbs) 0 = number.natAbs :=
    Nat.ofDigitChars_ten_toDigits
  unfold Word.Holds at holds
  unfold writeInt
  split
  next negative =>
      rw [readInt64_of_minus all Nat.toDigits_ne_nil (by rw [value]; omega), value]
      exact congrArg Except.ok (by omega)
  next notNegative =>
      rw [readInt64_of_digits all Nat.toDigits_ne_nil (by rw [value]; omega), value]
      exact congrArg Except.ok (by omega)

end Decimal

end CandleAlerts
