import CandleAlerts.Indicator.Builtin

/-!
How far back indicators look.

Averages, bands, oscillators and true ranges are taken over a window at the end of the candles, so
what stands before the window does not count. The relative strength is taken over changes and the
true range over closes of the bar before: with one candle more than the longest period, the window
never reaches the first of them.
-/

namespace CandleAlerts

namespace Series

/-! ## Windows -/

/-- A window is taken from the end, so what stands before enough values does not count. -/
theorem window_append {α : Type u} {count : Nat} {recent : List α}
    (enough : count ≤ recent.length) (older : List α) :
    window count (older ++ recent) = window count recent := by
  unfold window
  rw [List.length_append, Nat.add_sub_assoc enough, List.drop_append, Nat.add_sub_cancel_left,
    List.drop_of_length_le (Nat.le_add_right _ _), List.nil_append]

theorem simpleAverage_append {period : Nat} {recent : List Float}
    (enough : period ≤ recent.length) (older : List Float) :
    simpleAverage (older ++ recent) period = simpleAverage recent period := by
  rw [simpleAverage, window_append enough, ← simpleAverage]

theorem deviation_append {period : Nat} {recent : List Float}
    (enough : period ≤ recent.length) (older : List Float) :
    deviation (older ++ recent) period = deviation recent period := by
  rw [deviation, window_append enough, ← deviation]

/-! ## Series of neighbours

A change is counted from the value before it and a true range from the close before it, so a window
of them looks at one candle more than it has members. -/

theorem length_changes (values : List Float) : (changes values).length = values.length - 1 := by
  rw [changes, List.length_map, List.length_zip, List.length_tail,
    Nat.min_eq_right (Nat.sub_le _ _)]

/-- The changes end with those among the latest values. -/
theorem exists_changes_append (older recent : List Float) :
    ∃ before, changes (older ++ recent) = before ++ changes recent := by
  cases recent with
  | nil => exact ⟨_, (List.append_nil _).symm⟩
  | cons first others =>
      induction older with
      | nil => exact ⟨[], rfl⟩
      | cons value rest induction =>
          obtain ⟨before, split⟩ := induction
          obtain ⟨next, later, parts⟩ :=
            List.exists_cons_of_ne_nil (List.append_ne_nil_of_right_ne_nil rest
              (List.cons_ne_nil first others))
          have step : changes (value :: next :: later) =
              (next - value) :: changes (next :: later) := rfl
          refine ⟨(next - value) :: before, ?_⟩
          rw [List.cons_append, parts, step, ← parts, split, List.cons_append]

theorem relativeStrength_append {period : Nat} {recent : List Float}
    (enough : period < recent.length) (older : List Float) :
    relativeStrength (older ++ recent) period = relativeStrength recent period := by
  by_cases none : period = 0
  · simp [relativeStrength, none]
  · obtain ⟨before, split⟩ := exists_changes_append older recent
    have count : period ≤ (changes recent).length := by
      rw [length_changes]
      omega
    have many : ¬ (older ++ recent).length < 2 := by
      rw [List.length_append]
      omega
    have some : ¬ recent.length < 2 := by omega
    simp only [relativeStrength, many, some, split, window_append count]

/-- The true ranges end with those of the latest candles, the first of which is counted from the
close before. -/
theorem exists_trueRanges_append (older recent : List Candle) (previous : Option Float) :
    ∃ before close, trueRanges previous (older ++ recent) = before ++ trueRanges close recent := by
  induction older generalizing previous with
  | nil => exact ⟨[], previous, rfl⟩
  | cons candle rest induction =>
      obtain ⟨before, close, split⟩ := induction (some candle.close)
      refine ⟨trueRange previous candle :: before, close, ?_⟩
      rw [List.cons_append, trueRanges, split, List.cons_append]

theorem length_trueRanges (previous : Option Float) (candles : List Candle) :
    (trueRanges previous candles).length = candles.length := by
  induction candles generalizing previous with
  | nil => rfl
  | cons candle rest induction => rw [trueRanges, List.length_cons, induction, List.length_cons]

theorem averageTrueRange_append {period : Nat} {recent : List Candle}
    (enough : period < recent.length) (older : List Candle) :
    averageTrueRange (older ++ recent) period = averageTrueRange recent period := by
  obtain ⟨before, close, split⟩ := exists_trueRanges_append older recent none
  cases recent with
  | nil => cases enough
  | cons first others =>
      have count : period ≤ (trueRanges (some first.close) others).length := by
        rw [length_trueRanges]
        exact Nat.le_of_lt_succ enough
      -- the first range is counted from another close, and the window does not reach it
      have apart (close : Option Float) :
          simpleAverage (trueRanges close (first :: others)) period =
            simpleAverage (trueRanges (some first.close) others) period :=
        simpleAverage_append count [trueRange close first]
      have reaches : period ≤ (trueRanges close (first :: others)).length := by
        rw [length_trueRanges]
        exact Nat.le_of_lt enough
      rw [averageTrueRange, split, simpleAverage_append reaches, apart, averageTrueRange, apart]

end Series

/-! ## Patterns -/

/-- A pattern is told by the two latest candles. -/
theorem Pattern.exists_shows?_append (pattern : Pattern) {recent : List Candle}
    (two : 2 ≤ recent.length) (older : List Candle) :
    ∃ shown, pattern.shows? recent = some shown ∧
      pattern.shows? (older ++ recent) = some shown := by
  unfold Pattern.shows?
  rw [List.reverse_append]
  rw [← List.length_reverse] at two
  cases latest : recent.reverse with
  | nil => simp [latest] at two
  | cons last before =>
      cases before with
      | nil => simp [latest] at two
      | cons previous others =>
          simp only [List.cons_append, List.head?_cons, Option.map_some]
          split
          · exact ⟨_, rfl, rfl⟩
          · cases pattern <;> exact ⟨_, rfl, rfl⟩

/-! ## Indicators -/

/-- The longest period that a windowed indicator looks back over. Other indicators have none. -/
def IndicatorSpec.longestPeriod? (spec : IndicatorSpec) : Option Nat :=
  if spec.name ∈ ["SMA", "MA", "BB", "BBANDS", "BOLLINGER"] then some (spec.period 20)
  else if spec.name ∈ ["RSI", "ATR"] then some (spec.period 14)
  else if spec.name = "MA_CROSS" then
    some (max (wholePeriod spec "fast" 9.0) (wholePeriod spec "slow" 21.0))
  else none

theorem bandColumns_append {spec : IndicatorSpec} {recent : List Float}
    (enough : spec.period 20 ≤ recent.length) (older : List Float) :
    bandColumns (older ++ recent) spec = bandColumns recent spec := by
  simp only [bandColumns, Series.simpleAverage_append enough, Series.deviation_append enough]

theorem builtinIndicators_of_longestPeriod? {spec : IndicatorSpec} {longest : Nat}
    (windowed : spec.longestPeriod? = some longest) {recent : List Candle}
    (enough : longest < recent.length) (older : List Candle) :
    ∃ columns, builtinIndicators recent spec = some columns ∧
      builtinIndicators (older ++ recent) spec = some columns := by
  have given : recent ≠ [] := List.ne_nil_of_length_pos (Nat.zero_lt_of_lt enough)
  have closes : (recent.map Candle.close).length = recent.length := List.length_map _
  unfold IndicatorSpec.longestPeriod? at windowed
  unfold builtinIndicators
  simp only [List.isEmpty_iff, given, List.append_eq_nil_iff, and_false, if_false, List.map_append]
  split at windowed
  · rename_i named
    cases windowed
    have fits : spec.period 20 ≤ (recent.map Candle.close).length := by omega
    simp only [List.mem_cons, List.not_mem_nil, or_false] at named
    rw [Series.simpleAverage_append fits, bandColumns_append fits]
    rcases named with named | named | named | named | named <;>
      simp [named]
  split at windowed
  · rename_i named
    cases windowed
    have fits : spec.period 14 < (recent.map Candle.close).length := by omega
    simp only [List.mem_cons, List.not_mem_nil, or_false] at named
    rw [Series.relativeStrength_append fits, Series.averageTrueRange_append enough]
    rcases named with named | named <;>
      simp [named]
  split at windowed
  · rename_i named
    cases windowed
    have fast : wholePeriod spec "fast" 9.0 ≤ (recent.map Candle.close).length := by omega
    have slow : wholePeriod spec "slow" 21.0 ≤ (recent.map Candle.close).length := by omega
    rw [Series.simpleAverage_append fast, Series.simpleAverage_append slow]
    simp [named]
  · cases windowed

theorem Pattern.name_of_ofName? {name : String} {pattern : Pattern}
    (known : Pattern.ofName? name = some pattern) : pattern.name = name := by
  unfold Pattern.ofName? at known
  have same := List.find?_some known
  exact eq_of_beq same

theorem builtinIndicators_of_pattern {spec : IndicatorSpec} {pattern : Pattern}
    (known : Pattern.ofName? spec.name = some pattern) {recent : List Candle}
    (two : 2 ≤ recent.length) (older : List Candle) :
    ∃ columns, builtinIndicators recent spec = some columns ∧
      builtinIndicators (older ++ recent) spec = some columns := by
  have given : recent ≠ [] := List.ne_nil_of_length_pos (Nat.zero_lt_of_lt two)
  have named := Pattern.name_of_ofName? known
  obtain ⟨shown, isShown, stillShown⟩ := pattern.exists_shows?_append two older
  unfold builtinIndicators
  simp only [List.isEmpty_iff, given, List.append_eq_nil_iff, and_false, if_false]
  rw [known, ← named]
  cases pattern <;> simp [isShown, stillShown, Pattern.name]

/-- Windowed indicators forget older candles: with one candle more than their longest period they
are computed, and the columns are the same whatever candles stand before. Patterns forget all but
two candles. -/
theorem windowedIndicators_forget_older_candles (older recent : List Candle)
    (spec : IndicatorSpec) :
    (∀ longest, spec.longestPeriod? = some longest → longest < recent.length →
      ∃ columns, builtinIndicators recent spec = some columns ∧
        builtinIndicators (older ++ recent) spec = some columns) ∧
    (∀ pattern, Pattern.ofName? spec.name = some pattern → 2 ≤ recent.length →
      ∃ columns, builtinIndicators recent spec = some columns ∧
        builtinIndicators (older ++ recent) spec = some columns) :=
  ⟨fun _ windowed enough => builtinIndicators_of_longestPeriod? windowed enough older,
    fun _ known two => builtinIndicators_of_pattern known two older⟩

/-- Three candles, the latest of which engulfs the one before. -/
def engulfingBars : List Candle :=
  [⟨0, 5.0, 9.0, 4.0, 9.0, 1.0⟩, ⟨60, 6.0, 7.0, 3.0, 4.0, 1.0⟩, ⟨120, 3.5, 8.0, 3.0, 7.5, 1.0⟩]

/-- The average true range over two bars. -/
def twoBarRange : IndicatorSpec :=
  (IndicatorSpec.named "ATR").withParameter "period" 2.0

theorem windowedIndicators_forget_a_wild_candle :
    (∃ columns, builtinIndicators engulfingBars twoBarRange = some columns ∧
      builtinIndicators (⟨-60, 50.0, 90.0, 1.0, 80.0, 1.0⟩ :: engulfingBars) twoBarRange =
        some columns) ∧
    ∃ columns, builtinIndicators engulfingBars.tail (.named "BULLISH_ENGULFING") = some columns ∧
      builtinIndicators engulfingBars (.named "BULLISH_ENGULFING") = some columns :=
  ⟨(windowedIndicators_forget_older_candles [⟨-60, 50.0, 90.0, 1.0, 80.0, 1.0⟩] engulfingBars
      twoBarRange).1 2 (by decide +kernel) (by decide),
    (windowedIndicators_forget_older_candles (engulfingBars.take 1) engulfingBars.tail
      (.named "BULLISH_ENGULFING")).2 .bullishEngulfing (by decide) (by decide)⟩

/-- The candle more is needed: the first true range is counted from the close before it. -/
example : (Series.averageTrueRange engulfingBars.tail 2).toBits ≠
    (Series.averageTrueRange engulfingBars 2).toBits := by decide +kernel

end CandleAlerts
