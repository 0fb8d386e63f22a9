import CandleAlerts.Text.Blank
import CandleAlerts.Text.Letters
import CandleAlerts.Text.LowerCase
import Mathlib

/-!
Trimmed texts and letter case.

Upper case here is that of the letters `A` to `Z`. No blank is a letter, so a trimmed text stays
trimmed when its letter case is changed. Lower case in any script leaves none of these letters.
-/

namespace CandleAlerts.Text

/-- No letter from `a` to `z` stands in the text. -/
def IsUpper (text : String) : Prop :=
  ∀ character ∈ text.toList, character.isLower = false

/-- No letter from `A` to `Z` stands in the text. -/
def IsLower (text : String) : Prop :=
  ∀ character ∈ text.toList, character.isUpper = false

/-- No blank stands at either end of the text. -/
structure IsTrimmed (text : String) : Prop where
  first : ∀ character, text.toList.head? = some character → isBlank character = false
  last : ∀ character, text.toList.getLast? = some character → isBlank character = false

theorem asciiUpper_isUpper (text : String) : IsUpper (asciiUpper text) := by
  intro character member
  rw [asciiUpper, String.toList_ofList] at member
  rcases List.mem_map.1 member with ⟨original, -, rfl⟩
  exact Char.isLower_toUpper_eq_false original

theorem asciiLower_isLower (text : String) : IsLower (asciiLower text) := by
  intro character member
  rw [asciiLower, String.toList_ofList] at member
  rcases List.mem_map.1 member with ⟨original, -, rfl⟩
  exact Char.isUpper_toLower_eq_false original

/-- A character that is not blank stays so in upper case: the letters are not blank. -/
theorem isBlank_toUpper {character : Char} (visible : isBlank character = false) :
    isBlank character.toUpper = false := by
  by_cases lower : character.isLower = true
  · have letter : 97 ≤ character.toNat ∧ character.toNat ≤ 122 := by
      simpa [Char.isLower, UInt32.le_iff_toNat_le, ← Char.toNat_val] using lower
    rw [Char.toUpper_eq_of_isLower lower]
    have code : (Char.ofNat (character.toNat - 32)).toNat = character.toNat - 32 := by
      rw [Char.toNat_ofNat, if_pos (.inl (by omega))]
    simp only [isBlank, code]
    simp
    omega
  · rw [Char.toUpper_eq_of_not_isLower lower]
    exact visible

theorem trimEnd_eq_rdropWhile (text : List Char) : trimEnd text = text.rdropWhile isBlank := rfl

theorem trim_isTrimmed (text : String) : IsTrimmed (trim text) := by
  rw [trim, trimBlanks, trimStart, trimEnd_eq_rdropWhile]
  constructor
  · intro character found
    rw [String.toList_ofList] at found
    rcases List.rdropWhile_prefix isBlank (text.toList.dropWhile isBlank) with ⟨dropped, whole⟩
    have first : (text.toList.dropWhile isBlank).head? = some character := by
      rw [← whole, List.head?_append, found]
      rfl
    have visible := List.head?_dropWhile_not isBlank text.toList
    rw [first] at visible
    exact visible
  · intro character found
    rw [String.toList_ofList] at found
    rcases List.getLast?_eq_some_iff.1 found with ⟨before, split⟩
    have visible := List.rdropWhile_last_not isBlank (text.toList.dropWhile isBlank)
      (by rw [split]; simp)
    simpa [split] using visible

/-- A text that begins and ends with no blank is left as it is. -/
theorem IsTrimmed.trim_eq {text : String} (trimmed : IsTrimmed text) : trim text = text := by
  have start : text.toList.dropWhile isBlank = text.toList := by
    cases characters : text.toList with
    | nil => rfl
    | cons head tail =>
        have visible := trimmed.first head (by rw [characters]; rfl)
        exact List.dropWhile_cons_of_neg (by simp [visible])
  have whole : text.toList.rdropWhile isBlank = text.toList := by
    rw [List.rdropWhile_eq_self_iff]
    intro nonempty
    simp [trimmed.last _ (List.getLast?_eq_some_getLast nonempty)]
  rw [trim, trimBlanks, trimStart, trimEnd_eq_rdropWhile, start, whole, String.ofList_toList]

theorem IsTrimmed.asciiUpper {text : String} (trimmed : IsTrimmed text) :
    IsTrimmed (asciiUpper text) := by
  constructor
  · intro character found
    rw [Text.asciiUpper, String.toList_ofList, List.head?_map] at found
    rcases Option.map_eq_some_iff.1 found with ⟨original, first, rfl⟩
    exact isBlank_toUpper (trimmed.first original first)
  · intro character found
    rw [Text.asciiUpper, String.toList_ofList, List.getLast?_map] at found
    rcases Option.map_eq_some_iff.1 found with ⟨original, last, rfl⟩
    exact isBlank_toUpper (trimmed.last original last)

/-- Changing the letter case leaves no text empty that was not. -/
theorem asciiUpper_ne_empty {text : String} (given : text ≠ "") : asciiUpper text ≠ "" := by
  intro empty
  have characters := congrArg String.toList empty
  rw [asciiUpper, String.toList_ofList] at characters
  exact given (String.toList_injective (List.map_eq_nil_iff.1 characters))

/-! ## Lower case in any script -/

theorem isUpper_eq_false {character : Char}
    (outside : character.toNat < 65 ∨ 90 < character.toNat) : character.isUpper = false := by
  simp only [Char.isUpper, UInt32.le_iff_toNat_le, Bool.decide_and, Bool.and_eq_false_iff,
    decide_eq_false_iff_not, ge_iff_le]
  change ¬ 65 ≤ character.toNat ∨ ¬ character.toNat ≤ 90
  omega

/-- A run of characters goes to characters behind the letter `Z`. -/
theorem lt_lowerRun : ∀ run ∈ lowerRuns, 90 < run.first + run.distance := by
  decide +kernel

theorem isUpper_lowerChar {character : Char} (beyond : 128 ≤ character.toNat) :
    (lowerChar character).isUpper = false := by
  unfold lowerChar
  dsimp only
  split
  · rename_i run found
    have start := lt_lowerRun run (List.mem_of_find?_eq_some found)
    have inRun := List.find?_some found
    simp only [Bool.and_eq_true, decide_eq_true_eq] at inRun
    apply isUpper_eq_false
    rw [Char.toNat_ofNat, Int.ofNat_eq_natCast]
    split <;> omega
  · exact isUpper_eq_false (.inr (by omega))

theorem lowerFrom_isLower (before text : List Char) :
    ∀ character ∈ lowerFrom before text, character.isUpper = false := by
  induction text generalizing before with
  | nil => exact nofun
  | cons first rest induction =>
      intro character member
      rw [lowerFrom, List.mem_append] at member
      rcases member with lowered | later
      · split at lowered
        · rw [List.mem_singleton.1 lowered]
          split <;> decide
        · split at lowered
          · rcases List.mem_pair.1 lowered with rfl | rfl <;> decide
          · split at lowered
            · rw [List.mem_singleton.1 lowered]
              exact Char.isUpper_toLower_eq_false first
            · rw [List.mem_singleton.1 lowered]
              exact isUpper_lowerChar (by omega)
      · exact induction _ character later

theorem lower_isLower (text : String) : IsLower (lower text) := by
  intro character member
  rw [lower, String.toList_ofList] at member
  exact lowerFrom_isLower [] text.toList character member

end CandleAlerts.Text
