import CandleAlerts.Proofs.EventTexts
import CandleAlerts.Proofs.TimeframeTexts

/-!
Which texts are timeframes.

Without the blanks around it the text of a timeframe is a count and a unit. Either may be missing,
though not both: no count is one, and no unit is a minute. Such texts are read, and no others, as
long as the count and the length in seconds are words.
-/

namespace CandleAlerts.Timeframe

open Decimal Text

/-- The units in all their spellings, with their lengths in seconds. No unit is a minute. -/
def unitSpellings : List (String × Nat) :=
  [("", 60), ("m", 60), ("min", 60), ("h", 3600), ("H", 3600), ("d", 86400), ("D", 86400),
   ("w", 604800), ("W", 604800)]

/-- The count that digits write. No digits are a count of one. -/
def countOf (digits : List Char) : Nat :=
  if digits = [] then 1 else Nat.ofDigitChars 10 digits 0

/-- A text spells a length in seconds: it is a count and a unit, not both missing, and their product
is the length. -/
inductive Spells : List Char → Nat → Prop
  | counted {digits : List Char} {unit : String} {length : Nat} (all : AllDigits digits)
      (isUnit : (unit, length) ∈ unitSpellings) (given : digits ++ unit.toList ≠ [])
      (someCount : 1 ≤ countOf digits) (countFits : countOf digits < 2 ^ 64)
      (lengthFits : countOf digits * length < 2 ^ 64) :
      Spells (digits ++ unit.toList) (countOf digits * length)

/-! ## Units -/

theorem unitSeconds?_of_spelling : ∀ spelling ∈ unitSpellings,
    unitSeconds? spelling.1.toList = some spelling.2 := by
  decide

theorem exists_spelling {unit : List Char} {length : Nat}
    (read : unitSeconds? unit = some length) :
    ∃ spelling ∈ unitSpellings, spelling.1.toList = unit ∧ spelling.2 = length := by
  unfold unitSeconds? at read
  split at read
  · rename_i minutes
    cases read
    rcases minutes with rfl | rfl | rfl
    · exact ⟨("", 60), by decide, rfl, rfl⟩
    · exact ⟨("m", 60), by decide, rfl, rfl⟩
    · exact ⟨("min", 60), by decide, rfl, rfl⟩
  split at read
  · rename_i hours
    cases read
    rcases hours with rfl | rfl
    · exact ⟨("h", 3600), by decide, rfl, rfl⟩
    · exact ⟨("H", 3600), by decide, rfl, rfl⟩
  split at read
  · rename_i days
    cases read
    rcases days with rfl | rfl
    · exact ⟨("d", 86400), by decide, rfl, rfl⟩
    · exact ⟨("D", 86400), by decide, rfl, rfl⟩
  split at read
  · rename_i weeks
    cases read
    rcases weeks with rfl | rfl
    · exact ⟨("w", 604800), by decide, rfl, rfl⟩
    · exact ⟨("W", 604800), by decide, rfl, rfl⟩
  · cases read

/-- Units begin with no digit, so the digits before one end where it begins. -/
theorem head_spelling_not_digit : ∀ spelling ∈ unitSpellings,
    ∀ character ∈ spelling.1.toList.head?, character.isDigit = false := by
  simp [unitSpellings]

theorem wholeMinutes_of_spelling : ∀ spelling ∈ unitSpellings,
    60 ≤ spelling.2 ∧ spelling.2 % 60 = 0 := by
  decide

/-! ## Reading -/

/-- The count is read as what its digits write, if that is a word. -/
theorem readCount_eq_some_iff {digits : List Char} (all : AllDigits digits) (count : Nat) :
    (if digits.isEmpty then some 1 else (readNat (UInt64.size - 1) digits).toOption) = some count ↔
      countOf digits = count ∧ count < 2 ^ 64 := by
  have size : UInt64.size = 2 ^ 64 := rfl
  cases digits with
  | nil =>
      have one : 1 < 2 ^ 64 := by decide
      simp only [List.isEmpty_nil, if_true, countOf, Option.some.injEq]
      constructor
      · rintro rfl
        exact ⟨rfl, one⟩
      · exact And.left
  | cons head tail =>
      have noPlus : head ≠ '+' := by
        rintro rfl
        exact absurd (AllDigits.cons_iff.1 all).1 (by decide)
      have given : head :: tail ≠ [] := by simp
      rw [List.isEmpty_cons, if_neg Bool.false_ne_true, countOf, if_neg given]
      constructor
      · intro read
        cases outcome : readNat (UInt64.size - 1) (head :: tail) with
        | error fault =>
            rw [outcome] at read
            cases read
        | ok number =>
            rw [outcome] at read
            cases read
            obtain ⟨writes, fits⟩ := (readNat_eq_ok_iff _ _ _).1 outcome
            cases writes with
            | unsigned => exact ⟨rfl, by omega⟩
            | plus => exact absurd rfl noPlus
      · rintro ⟨rfl, fits⟩
        rw [readNat_eq_ok all given (by omega)]
        rfl

theorem ofSeconds?_eq_some {seconds : Nat} {timeframe : Timeframe}
    (made : ofSeconds? seconds = some timeframe) : timeframe.seconds = seconds := by
  unfold ofSeconds? at made
  split at made
  · cases made
    rfl
  · cases made

/-- What is read was spelled. -/
theorem spells_of_parse? {text : String} {timeframe : Timeframe}
    (read : parse? text = some timeframe) :
    Spells (trimBlanks text.toList) timeframe.seconds := by
  simp only [parse?] at read
  generalize trimBlanks text.toList = trimmed at read ⊢
  have digits : AllDigits (trimmed.takeWhile Char.isDigit) :=
    fun _ member => List.mem_takeWhile_imp member
  have parts := List.takeWhile_append_dropWhile (p := Char.isDigit) (l := trimmed)
  split at read
  · cases read
  rename_i nonempty
  split at read
  · rename_i count length isCount isUnit
    obtain ⟨counted, countFits⟩ := (readCount_eq_some_iff digits count).1 isCount
    obtain ⟨⟨unit, _⟩, isSpelling, spelled, rfl⟩ := exists_spelling isUnit
    dsimp only at spelled isSpelling
    split at read
    · cases read
    rename_i someCount
    have whole := ofSeconds?_eq_some read
    have lengthFits := timeframe.fitsWord
    rw [← counted] at someCount countFits whole
    rw [whole] at lengthFits ⊢
    rw [← spelled] at parts
    have given : trimmed.takeWhile Char.isDigit ++ unit.toList ≠ [] := by
      rw [parts]
      exact fun empty => nonempty (List.isEmpty_iff.2 empty)
    have spells := Spells.counted digits isSpelling given (Nat.pos_of_ne_zero someCount) countFits
      lengthFits
    rwa [parts] at spells
  · cases read

/-- What is spelled is read. -/
theorem parse?_of_spells {text : String} {seconds : Nat}
    (spells : Spells (trimBlanks text.toList) seconds) :
    ∃ timeframe, parse? text = some timeframe ∧ timeframe.seconds = seconds := by
  simp only [parse?]
  generalize trimBlanks text.toList = trimmed at spells
  cases spells with
  | @counted digits unit length all isUnit given someCount countFits lengthFits =>
      have ends := head_spelling_not_digit _ isUnit
      have isCount := (readCount_eq_some_iff all (countOf digits)).2 ⟨rfl, countFits⟩
      have nonempty : (digits ++ unit.toList).isEmpty = false := List.isEmpty_eq_false_iff.2 given
      have minutes := wholeMinutes_of_spelling _ isUnit
      dsimp only at ends minutes
      have long : 60 ≤ countOf digits * length :=
        Nat.le_trans minutes.1 (Nat.le_mul_of_pos_left length someCount)
      have whole : countOf digits * length % 60 = 0 := by
        rw [Nat.mul_mod, minutes.2, Nat.mul_zero, Nat.zero_mod]
      refine ⟨⟨countOf digits * length, ⟨long, whole⟩, lengthFits⟩, ?_, rfl⟩
      rw [all.takeWhile_append ends, all.dropWhile_append ends, isCount, nonempty,
        unitSeconds?_of_spelling _ isUnit]
      simp only [Bool.false_eq_true, if_false, if_neg (Nat.ne_of_gt someCount)]
      exact dif_pos ⟨⟨long, whole⟩, lengthFits⟩

/-- A text is read as a timeframe exactly if it spells one, and then as the timeframe of the length
that it spells; every timeframe is read back from its text, and from what it is written as in
JSON. -/
theorem read_exactly_as_spelled :
    (∀ (text : String) (seconds : Nat), (parse? text).map Timeframe.seconds = some seconds ↔
      Spells (trimBlanks text.toList) seconds) ∧
    ∀ timeframe : Timeframe, parse? timeframe.text = some timeframe ∧
      (Json.read? (Json.string timeframe.text).compact).bind Timeframe.ofJson? =
        some timeframe := by
  constructor
  · intro text seconds
    constructor
    · intro read
      obtain ⟨timeframe, isRead, rfl⟩ := Option.map_eq_some_iff.1 read
      exact spells_of_parse? isRead
    · intro spells
      obtain ⟨timeframe, read, same⟩ := parse?_of_spells spells
      exact Option.map_eq_some_iff.2 ⟨timeframe, read, same⟩
  · intro timeframe
    refine ⟨timeframe.parse?_text, ?_⟩
    rw [Json.read?_compact (by simp [Json.Readable])]
    exact timeframe.ofJson?_text

/-- A sign is no digit. -/
example : parse? "+5m" = none := by decide

end CandleAlerts.Timeframe
