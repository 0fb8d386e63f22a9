import CandleAlerts.Proofs.PlaybookAccounts
import CandleAlerts.Proofs.Resampling
import Mathlib.Data.List.Destutter

/-!
Which times are numbered by the bar that holds them.

The number of a bar is the floor of a time by the length of the bar, and resampling puts a candle
into the bucket that opens with its bar. Both take the length as a signed word. A length up to the
greatest word is left as it is, and then both are right at every time. A longer one turns negative.
Bars are numbered backwards then, and from zero on both are right only for the few seconds that the
length lacks to a whole round of words.
-/

namespace CandleAlerts

namespace Timeframe

/-- Whether the number of a time is that of the bar which holds it: the floor of the time by the
length of the bars. -/
def NumbersExactly (timeframe : Timeframe) (time : Int) : Prop :=
  timeframe.seconds * timeframe.barIndex time ≤ time ∧
    time < timeframe.seconds * (timeframe.barIndex time + 1)

/-- Whether the bucket of a time starts where its bar opens, if a word can tell where that is. -/
def BucketsExactly (timeframe : Timeframe) (time : Int) : Prop :=
  Word.Holds (timeframe.barOpening time) → timeframe.bucketStart time = timeframe.barOpening time

instance (timeframe : Timeframe) (time : Int) : Decidable (timeframe.NumbersExactly time) :=
  inferInstanceAs (Decidable (_ ∧ _))

instance (timeframe : Timeframe) (time : Int) : Decidable (timeframe.BucketsExactly time) :=
  inferInstanceAs (Decidable (_ → _))

/-- What the length of a bar lacks to a whole round of words. -/
def shortfall (timeframe : Timeframe) : Int := UInt64.size - timeframe.seconds

variable {timeframe : Timeframe} {time : Int}

/-! ## Lengths as signed words -/

theorem shortfall_pos (timeframe : Timeframe) : 0 < timeframe.shortfall := by
  have bounded : timeframe.seconds < UInt64.size := timeframe.fitsWord
  rw [shortfall]
  omega

theorem wrap_seconds_of_fits (fits : (timeframe.seconds : Int) ≤ Word.greatest) :
    Word.wrap timeframe.seconds = timeframe.seconds := by
  rw [timeframe.wrap_seconds, if_pos fits]

theorem wrap_seconds_of_long (long : Word.greatest < timeframe.seconds) :
    Word.wrap timeframe.seconds = -timeframe.shortfall := by
  rw [timeframe.wrap_seconds, if_neg (Int.not_le.2 long), shortfall, Int.neg_sub]

/-! ## Numbers -/

theorem numbersExactly_iff_eq :
    timeframe.NumbersExactly time ↔ time / timeframe.seconds = timeframe.barIndex time := by
  rw [Int.ediv_eq_iff_of_pos timeframe.seconds_pos, NumbersExactly, Int.mul_add, Int.mul_one,
    Int.mul_comm]

theorem barIndex_of_fits (fits : (timeframe.seconds : Int) ≤ Word.greatest) :
    timeframe.barIndex time = time / timeframe.seconds := by
  rw [barIndex, wrap_seconds_of_fits fits]

/-- Bars that are too long are numbered backwards, as though they lasted for what they lack. -/
theorem barIndex_of_long (long : Word.greatest < timeframe.seconds) :
    timeframe.barIndex time = -(time / timeframe.shortfall) := by
  rw [barIndex, wrap_seconds_of_long long, Int.ediv_neg]

/-- Words lie within two bars that are too long, one on either side of zero. -/
theorem ediv_seconds_of_long (long : Word.greatest < timeframe.seconds)
    (word : Word.Holds time) : time / timeframe.seconds = if 0 ≤ time then 0 else -1 := by
  obtain ⟨low, high⟩ := word
  rw [Word.least] at low
  rw [Word.greatest] at high long
  rw [Int.ediv_eq_iff_of_pos timeframe.seconds_pos]
  split <;> omega

/-- A time is numbered exactly if the length of the bars is a signed word, and otherwise only if it
is one of the first seconds from zero on. -/
theorem numbersExactly_iff (word : Word.Holds time) :
    timeframe.NumbersExactly time ↔
      (timeframe.seconds : Int) ≤ Word.greatest ∨ 0 ≤ time ∧ time < timeframe.shortfall := by
  rw [numbersExactly_iff_eq]
  by_cases fits : (timeframe.seconds : Int) ≤ Word.greatest
  · simp only [barIndex_of_fits fits, fits, true_or]
  have long := Int.not_le.1 fits
  have lacking := timeframe.shortfall_pos
  have quotient : time / timeframe.shortfall = 0 ↔ 0 ≤ time ∧ time < timeframe.shortfall := by
    rw [Int.ediv_eq_iff_of_pos lacking, Int.zero_mul, Int.zero_add]
  rw [barIndex_of_long long, ediv_seconds_of_long long word, ← quotient]
  simp only [fits, false_or]
  split
  · omega
  · next before =>
      have below := Int.ediv_neg_of_neg_of_pos (Int.not_le.1 before) lacking
      omega

/-! ## Buckets -/

/-- Of the bars that are too long, a word tells the opening of the one that begins at zero only: a
length is whole minutes, so it is no power of two. -/
theorem holds_barOpening_of_long (long : Word.greatest < timeframe.seconds)
    (word : Word.Holds time) :
    Word.Holds (timeframe.barOpening time) ↔ 0 ≤ time := by
  have whole := timeframe.wholeMinutes.2
  rw [Word.greatest] at long
  rw [barOpening, ediv_seconds_of_long long word]
  simp only [Word.Holds, Word.least, Word.greatest]
  split <;> omega

theorem barOpening_of_long (long : Word.greatest < timeframe.seconds) (word : Word.Holds time)
    (after : 0 ≤ time) : timeframe.barOpening time = 0 := by
  rw [barOpening, ediv_seconds_of_long long word, if_pos after, Int.mul_zero]

/-- From zero on the buckets of bars that are too long are as long as what they lack. -/
theorem bucketStart_of_long (long : Word.greatest < timeframe.seconds) (word : Word.Holds time)
    (after : 0 ≤ time) :
    timeframe.bucketStart time = timeframe.shortfall * (time / timeframe.shortfall) := by
  have lacking := timeframe.shortfall_pos
  have parts := Int.mul_ediv_add_emod time timeframe.shortfall
  have remainder := Int.emod_nonneg time lacking.ne'
  have rounded : 0 ≤ timeframe.shortfall * (time / timeframe.shortfall) :=
    Int.mul_nonneg lacking.le (Int.ediv_nonneg after lacking.le)
  have start : time - time % timeframe.shortfall =
      timeframe.shortfall * (time / timeframe.shortfall) := by
    omega
  have holds : Word.Holds (timeframe.shortfall * (time / timeframe.shortfall)) :=
    ⟨Int.le_trans (by decide) rounded, Int.le_trans (by omega) word.2⟩
  rw [bucketStart, wrap_seconds_of_long long, Int.emod_neg, Word.sub, start,
    Word.wrap_eq_self holds]

/-- A bucket starts where its bar opens if the length of the bars is a signed word. Otherwise no word
tells where a bar before zero opens, and from zero on it holds for the first seconds only. -/
theorem bucketsExactly_iff (word : Word.Holds time) :
    timeframe.BucketsExactly time ↔
      (timeframe.seconds : Int) ≤ Word.greatest ∨ time < timeframe.shortfall := by
  by_cases fits : (timeframe.seconds : Int) ≤ Word.greatest
  · simp only [fits, true_or, iff_true]
    exact bucketStart_eq fits
  have long := Int.not_le.1 fits
  have lacking := timeframe.shortfall_pos
  rw [BucketsExactly, holds_barOpening_of_long long word]
  simp only [fits, false_or]
  by_cases after : 0 ≤ time
  · have quotient : time / timeframe.shortfall = 0 ↔ time < timeframe.shortfall := by
      rw [Int.ediv_eq_iff_of_pos lacking, Int.zero_mul, Int.zero_add, and_iff_right after]
    rw [bucketStart_of_long long word after, barOpening_of_long long word after, Int.mul_eq_zero,
      quotient]
    simp [after, lacking.ne']
  · have before : time < timeframe.shortfall := by omega
    simp [after, before]

end Timeframe

/-! ## Resampled bars -/

/-- Bars that are gathered from candles open with the buckets of the candles; neighbours of one
bucket share a bar. -/
theorem times_gatherBars (target : Timeframe) (bar : Candle) (candles : List Candle) :
    (gatherBars target bar candles).map Candle.time =
      (candles.map (fun candle => target.bucketStart candle.time)).destutter' (· ≠ ·) bar.time := by
  induction candles generalizing bar with
  | nil => rfl
  | cons candle rest induction =>
      rw [gatherBars, List.map_cons, List.destutter'_cons]
      split
      · next same =>
          rw [if_neg (not_not_intro same.symm), induction, Candle.absorb_time]
      · next different =>
          rw [if_pos (Ne.symm different), List.map_cons, induction]

theorem times_gathered (target : Timeframe) (candles : List Candle) :
    (gathered target candles).map Candle.time =
      (candles.map (fun candle => target.bucketStart candle.time)).destutter (· ≠ ·) := by
  cases candles with
  | nil => rfl
  | cons first rest => exact times_gatherBars target _ rest

namespace Timeframe

/-- Every time is numbered by the floor if the length of the bars is a signed word, and otherwise
none is but the first seconds from zero on. In buckets that start where their bars open are, of the
times from zero on, the same ones. Resampled bars open with the buckets of their candles, in
whatever order these come. -/
theorem numbered_and_bucketed_exactly_iff (timeframe : Timeframe) :
    (∀ time, Word.Holds time →
      (timeframe.NumbersExactly time ↔
        (timeframe.seconds : Int) ≤ Word.greatest ∨ 0 ≤ time ∧ time < timeframe.shortfall)) ∧
    (∀ time, Word.Holds time →
      (timeframe.BucketsExactly time ↔
        (timeframe.seconds : Int) ≤ Word.greatest ∨ time < timeframe.shortfall)) ∧
    ∀ source : Timeframe, source.seconds < timeframe.seconds →
      source.seconds ∣ timeframe.seconds → ∀ candles,
        ∃ bars, resample? source timeframe candles = some bars ∧
          bars.map Candle.time =
            (candles.map (fun candle => timeframe.bucketStart candle.time)).destutter (· ≠ ·) := by
  refine ⟨fun _ => numbersExactly_iff, fun _ => bucketsExactly_iff, ?_⟩
  intro source shorter whole candles
  have different : source ≠ timeframe := by
    rintro rfl
    exact Nat.lt_irrefl _ shorter
  exact ⟨_, resample?_eq_gathered different whole, times_gathered timeframe candles⟩

/-- The greatest length that a text can tell: sixteen seconds less than a whole round of words. -/
def longest : Timeframe := ⟨18446744073709551600, by decide, by decide⟩

theorem parse?_longest : parse? "5124095576030431h" = some longest := by decide +kernel

theorem sixHours_number_and_bucket :
    Word.Holds (-1) ∧ sixHours.NumbersExactly (-1) ∧ sixHours.BucketsExactly (-1) ∧
    (hour.seconds < sixHours.seconds ∧ hour.seconds ∣ sixHours.seconds) ∧
    (∃ bars, resample? hour sixHours candlesAroundZero = some bars ∧
      bars.map Candle.time = [-21600, 0, 43200]) ∧
    ¬ longest.NumbersExactly (-1) := by
  have word : Word.Holds (-1) := by decide
  have shorter : hour.seconds < sixHours.seconds := by decide
  have whole : hour.seconds ∣ sixHours.seconds := by decide
  obtain ⟨numbered, bucketed, resampled⟩ := numbered_and_bucketed_exactly_iff sixHours
  obtain ⟨bars, made, times⟩ := resampled hour shorter whole candlesAroundZero
  refine ⟨word, (numbered (-1) word).2 (.inl (by decide)), (bucketed (-1) word).2 (.inl (by decide)),
    ⟨shorter, whole⟩, ⟨bars, made, times.trans (by decide)⟩, ?_⟩
  rw [(numbered_and_bucketed_exactly_iff longest).1 (-1) word]
  decide

/-- Not every timeframe that can be read numbers times by the floor, and not every one puts candles
into the buckets of their bars: an hour after zero the longest does neither. -/
theorem longest_numbers_backwards :
    (¬ ∀ (text : String) (timeframe : Timeframe), parse? text = some timeframe →
      ∀ time, Word.Holds time → timeframe.NumbersExactly time) ∧
    ¬ ∀ (text : String) (timeframe : Timeframe), parse? text = some timeframe →
      ∀ time, Word.Holds time → timeframe.BucketsExactly time := by
  constructor
  · intro exact
    exact absurd (exact _ longest parse?_longest 3600 (by decide)) (by decide)
  · intro exact
    exact absurd (exact _ longest parse?_longest 3600 (by decide)) (by decide)

end Timeframe

end CandleAlerts
