import CandleAlerts.Proofs.GroupSnapshotLaws
import Mathlib

/-!
What resampled bars are made of.

Candles in order of time are cut into the buckets of the longer timeframe: there is a bar for each
bucket that holds a candle, and it summarizes the candles of its bucket and no others. In whatever
order the candles come, going through a timeframe in between leaves the times, the opening prices
and the closes as they are.
-/

namespace CandleAlerts

/-! ## Buckets -/

namespace Timeframe

/-- The opening time of the bar that holds `time`: the greatest multiple of the bar's length that is
not after it. -/
def barOpening (timeframe : Timeframe) (time : Int) : Int :=
  timeframe.seconds * (time / timeframe.seconds)

variable {timeframe shorter : Timeframe} {time : Int}

theorem seconds_pos (timeframe : Timeframe) : (0 : Int) < timeframe.seconds := by
  have long := timeframe.wholeMinutes.1
  omega

theorem dvd_barOpening : (timeframe.seconds : Int) ∣ timeframe.barOpening time :=
  Dvd.intro _ rfl

theorem barOpening_le : timeframe.barOpening time ≤ time :=
  Int.mul_ediv_self_le timeframe.seconds_pos.ne'

theorem barOpening_mono {earlier later : Int} (ordered : earlier ≤ later) :
    timeframe.barOpening earlier ≤ timeframe.barOpening later :=
  Int.mul_le_mul_of_nonneg_left (Int.ediv_le_ediv timeframe.seconds_pos ordered)
    timeframe.seconds_pos.le

/-- Where words suffice, buckets start at the opening times of bars. -/
theorem bucketStart_eq (fits : (timeframe.seconds : Int) ≤ Word.greatest)
    (holds : Word.Holds (timeframe.barOpening time)) :
    timeframe.bucketStart time = timeframe.barOpening time := by
  have length : Word.wrap timeframe.seconds = timeframe.seconds := by
    have positive := timeframe.seconds_pos
    refine Word.wrap_eq_self ⟨?_, fits⟩
    unfold Word.least
    omega
  have whole : time - time % timeframe.seconds = timeframe.barOpening time := by
    rw [barOpening, Int.emod_def]
    omega
  rw [bucketStart, length, Word.sub, whole, Word.wrap_eq_self holds]

/-- A bar that consists of whole shorter bars opens with one of them. -/
theorem barOpening_barOpening (whole : shorter.seconds ∣ timeframe.seconds) :
    timeframe.barOpening (shorter.barOpening time) = timeframe.barOpening time := by
  obtain ⟨count, parts⟩ := whole
  have length : (timeframe.seconds : Int) = shorter.seconds * count := by
    rw [parts]
    exact Int.natCast_mul _ _
  rw [barOpening, barOpening, barOpening, length, Int.mul_ediv_mul_of_pos _ _ shorter.seconds_pos,
    Int.ediv_ediv_of_nonneg shorter.seconds_pos.le]

theorem barOpening_le_barOpening (whole : shorter.seconds ∣ timeframe.seconds) :
    timeframe.barOpening time ≤ shorter.barOpening time := by
  rw [← barOpening_barOpening whole]
  exact barOpening_le

theorem isMultipleOf_iff : timeframe.isMultipleOf shorter = true ↔
    shorter.seconds ∣ timeframe.seconds := by
  rw [isMultipleOf, beq_iff_eq, Nat.dvd_iff_mod_eq_zero]

end Timeframe

/-! ## Bars that summarize candles -/

/-- A bar that opens with the first candle and closes with the last, and gathers their highs, lows
and volumes from left to right. -/
structure Candle.Summarizes (bar first : Candle) (others : List Candle) : Prop where
  openPrice : bar.openPrice = first.openPrice
  high : bar.high = (others.map Candle.high).foldl larger first.high
  low : bar.low = (others.map Candle.low).foldl smaller first.low
  close : bar.close = ((first :: others).getLast (List.cons_ne_nil _ _)).close
  volume : bar.volume = (others.map Candle.volume).foldl (· + ·) first.volume

namespace Candle

variable {bar first candle : Candle} {others : List Candle}

@[simp] theorem absorb_time (bar next : Candle) : (bar.absorb next).time = bar.time := rfl

theorem summarizes_self (candle : Candle) (start : Int) :
    ({ candle with time := start } : Candle).Summarizes candle [] :=
  ⟨rfl, rfl, rfl, rfl, rfl⟩

theorem Summarizes.absorb (summary : bar.Summarizes first others) (candle : Candle) :
    (bar.absorb candle).Summarizes first (others ++ [candle]) where
  openPrice := summary.openPrice
  high := by simp [Candle.absorb, summary.high]
  low := by simp [Candle.absorb, summary.low]
  close := by simp [Candle.absorb]
  volume := by simp [Candle.absorb, summary.volume]

end Candle

/-! ## Candles in order of time -/

/-- Bars that candles fall into one after the other: each bar summarizes the next candles, all of
its bucket, and the candles behind them belong to later buckets. -/
inductive Bucketed (target : Timeframe) : List Candle → List Candle → Prop
  | nil : Bucketed target [] []
  | cons {bar first : Candle} {others rest bars : List Candle}
      (summary : bar.Summarizes first others)
      (held : ∀ candle ∈ first :: others, target.barOpening candle.time = bar.time)
      (later : ∀ candle ∈ rest, bar.time < target.barOpening candle.time)
      (behind : Bucketed target rest bars) :
      Bucketed target (first :: others ++ rest) (bar :: bars)

/-- The candles that fall into the bar which opens at `start`. -/
def Timeframe.candlesAt (target : Timeframe) (candles : List Candle) (start : Int) : List Candle :=
  candles.filter (fun candle => target.barOpening candle.time = start)

/-- Gathering goes on with a bar under way: it takes the candles of its bucket, and the first candle
behind them begins the next bar. -/
theorem gatherBars_bucketed {target : Timeframe} {bar first : Candle} {others rest : List Candle}
    (starts : ∀ candle ∈ rest,
      target.bucketStart candle.time = target.barOpening candle.time)
    (ordered : rest.Pairwise (fun earlier later => earlier.time ≤ later.time))
    (after : ∀ candle ∈ rest, bar.time ≤ target.barOpening candle.time)
    (summary : bar.Summarizes first others)
    (held : ∀ candle ∈ first :: others, target.barOpening candle.time = bar.time) :
    Bucketed target (first :: others ++ rest) (gatherBars target bar rest) := by
  induction rest generalizing bar first others with
  | nil => exact .cons summary held nofun .nil
  | cons candle rest induction =>
      rw [List.forall_mem_cons] at starts after
      rw [List.pairwise_cons] at ordered
      rw [gatherBars, starts.1]
      split
      · next same =>
          have grown : first :: others ++ candle :: rest =
              first :: (others ++ [candle]) ++ rest := by simp
          rw [grown]
          refine induction starts.2 ordered.2 after.2 (summary.absorb candle) ?_
          rw [← List.cons_append, List.forall_mem_append]
          exact ⟨held, by simpa using same⟩
      · next different =>
          have beyond : bar.time < target.barOpening candle.time :=
            lt_of_le_of_ne after.1 (Ne.symm different)
          have next : ∀ later ∈ rest,
              target.barOpening candle.time ≤ target.barOpening later.time :=
            fun later member => Timeframe.barOpening_mono (ordered.1 later member)
          refine .cons summary held ?_ ?_
          · rw [List.forall_mem_cons]
            exact ⟨beyond, fun later member => lt_of_lt_of_le beyond (next later member)⟩
          · exact induction starts.2 ordered.2 next (candle.summarizes_self _) (by simp)

namespace Bucketed

variable {target : Timeframe} {candles bars : List Candle}

theorem exists_candle (bucketed : Bucketed target candles bars) {bar : Candle}
    (member : bar ∈ bars) : ∃ candle ∈ candles, target.barOpening candle.time = bar.time := by
  induction bucketed with
  | nil => cases member
  | @cons head first others rest bars summary held later behind induction =>
      rcases List.mem_cons.1 member with rfl | member
      · exact ⟨first, by simp, held first (by simp)⟩
      · obtain ⟨candle, there, same⟩ := induction member
        exact ⟨candle, List.mem_append_right _ there, same⟩

theorem times_increase (bucketed : Bucketed target candles bars) :
    bars.Pairwise (fun earlier later => earlier.time < later.time) := by
  induction bucketed with
  | nil => exact .nil
  | cons summary held later behind induction =>
      refine List.pairwise_cons.2 ⟨fun bar member => ?_, induction⟩
      obtain ⟨candle, there, same⟩ := behind.exists_candle member
      exact same ▸ later candle there

theorem exists_bar (bucketed : Bucketed target candles bars) {candle : Candle}
    (member : candle ∈ candles) : ∃ bar ∈ bars, target.barOpening candle.time = bar.time := by
  induction bucketed with
  | nil => cases member
  | @cons head first others rest bars summary held later behind induction =>
      rcases List.mem_append.1 member with taken | behind
      · exact ⟨head, by simp, held candle taken⟩
      · obtain ⟨bar, there, same⟩ := induction behind
        exact ⟨bar, List.mem_cons_of_mem _ there, same⟩

/-- Behind its own candles none falls into a bar. -/
theorem candlesAt_head {start : Int} {held rest : List Candle}
    (own : ∀ candle ∈ held, target.barOpening candle.time = start)
    (later : ∀ candle ∈ rest, start < target.barOpening candle.time) :
    target.candlesAt (held ++ rest) start = held := by
  rw [Timeframe.candlesAt, List.filter_append, List.filter_eq_self.2, List.filter_eq_nil_iff.2,
    List.append_nil]
  · intro candle member
    have different := (later candle member).ne'
    simpa using different
  · intro candle member
    simpa using own candle member

/-- Before the candles of a later bar none falls into it. -/
theorem candlesAt_later {earlier start : Int} {held rest : List Candle}
    (own : ∀ candle ∈ held, target.barOpening candle.time = earlier) (less : earlier < start) :
    target.candlesAt (held ++ rest) start = target.candlesAt rest start := by
  rw [Timeframe.candlesAt, List.filter_append, List.filter_eq_nil_iff.2, List.nil_append]
  · rfl
  · intro candle member
    have different := less.ne
    rw [← own candle member] at different
    simpa using different

theorem summarizes (bucketed : Bucketed target candles bars) :
    ∀ bar ∈ bars, ∃ first others,
      target.candlesAt candles bar.time = first :: others ∧ bar.Summarizes first others := by
  induction bucketed with
  | nil => exact nofun
  | @cons head first others rest bars summary held later behind induction =>
      intro bar member
      rcases List.mem_cons.1 member with rfl | member
      · exact ⟨first, others, candlesAt_head held later, summary⟩
      · obtain ⟨candle, there, same⟩ := behind.exists_candle member
        rw [candlesAt_later held (same ▸ later candle there)]
        exact induction bar member

/-- One after the other, the bars hold the candles that there are. -/
theorem flatMap_candlesAt (bucketed : Bucketed target candles bars) :
    bars.flatMap (fun bar => target.candlesAt candles bar.time) = candles := by
  induction bucketed with
  | nil => rfl
  | @cons head first others rest bars summary held later behind induction =>
      rw [List.flatMap_cons, candlesAt_head held later]
      refine congrArg (first :: others ++ ·) (Eq.trans ?_ induction)
      refine List.flatMap_congr fun bar member => ?_
      obtain ⟨candle, there, same⟩ := behind.exists_candle member
      exact candlesAt_later held (same ▸ later candle there)

end Bucketed

/-! ## Candles in any order -/

/-- What of a bar does not depend on how its candles were grouped on the way. -/
def Candle.outline (candle : Candle) : Int × Float × Float :=
  (candle.time, candle.openPrice, candle.close)

/-- The first bar gathered is the one under way, with its time and opening price. -/
theorem exists_gatherBars (timeframe : Timeframe) (bar : Candle) (candles : List Candle) :
    ∃ finished later, gatherBars timeframe bar candles = finished :: later ∧
      finished.time = bar.time ∧ finished.openPrice = bar.openPrice := by
  induction candles generalizing bar with
  | nil => exact ⟨bar, [], rfl, rfl, rfl⟩
  | cons candle rest induction =>
      rw [gatherBars]
      split
      · exact induction (bar.absorb candle)
      · exact ⟨bar, _, rfl, rfl, rfl⟩

/-- Gathering twice and gathering once, side by side: `bar` is under way between the two, `once` at
the end of the short way, and `take` is what becomes of `bar` on the long way when it is finished.
It opens as `once` does and closes as `bar` will. -/
theorem outline_gatherBars_gatherBars {middle target : Timeframe} {candles : List Candle}
    (nested : ∀ candle ∈ candles, target.bucketStart (middle.bucketStart candle.time) =
      target.bucketStart candle.time)
    (bar once : Candle) (take : Candle → Candle)
    (taken : ∀ finished : Candle, finished.time = bar.time →
      finished.openPrice = bar.openPrice →
      (take finished).outline = (once.time, once.openPrice, finished.close))
    (start : target.bucketStart bar.time = once.time) (close : once.close = bar.close)
    {finished : Candle} {later : List Candle}
    (gathered : gatherBars middle bar candles = finished :: later) :
    (gatherBars target (take finished) later).map Candle.outline =
      (gatherBars target once candles).map Candle.outline := by
  induction candles generalizing bar once take finished later with
  | nil =>
      cases gathered
      simp only [gatherBars, List.map_cons, List.map_nil]
      rw [taken bar rfl rfl, Candle.outline, close]
  | cons candle rest induction =>
      rw [List.forall_mem_cons] at nested
      rw [gatherBars] at gathered
      rw [gatherBars]
      by_cases joins : middle.bucketStart candle.time = bar.time
      · have joinsOnce : target.bucketStart candle.time = once.time := by
          rw [← nested.1, joins, start]
        rw [if_pos joins] at gathered
        rw [if_pos joinsOnce]
        exact induction nested.2 (bar.absorb candle) (once.absorb candle) take taken start rfl
          gathered
      · -- The bar in between is finished: the target's bar is as far on both ways.
        rw [if_neg joins] at gathered
        cases gathered
        obtain ⟨next, beyond, continued, nextTime, nextOpen⟩ := exists_gatherBars middle
          { candle with time := middle.bucketStart candle.time } rest
        have done : (take bar).outline = once.outline := by
          rw [taken bar rfl rfl, Candle.outline, close]
        have doneTime : (take bar).time = once.time := congrArg Prod.fst done
        have doneOpen : (take bar).openPrice = once.openPrice :=
          congrArg (fun outline => outline.2.1) done
        rw [continued, gatherBars, doneTime]
        have nextStart : target.bucketStart next.time = target.bucketStart candle.time := by
          rw [nextTime, nested.1]
        by_cases joinsOnce : target.bucketStart candle.time = once.time
        · rw [if_pos joinsOnce, if_pos (nextStart.trans joinsOnce)]
          have absorbed (finished : Candle) :
              ((take bar).absorb finished).outline = (once.time, once.openPrice, finished.close) :=
            Prod.ext doneTime (Prod.ext doneOpen rfl)
          exact induction nested.2 { candle with time := middle.bucketStart candle.time }
            (once.absorb candle) (take bar).absorb (fun finished _ _ => absorbed finished)
            (nested.1.trans joinsOnce) rfl continued
        · rw [if_neg joinsOnce, if_neg (fun same => joinsOnce (nextStart.symm.trans same)),
            List.map_cons, List.map_cons, done]
          refine congrArg (once.outline :: ·) ?_
          refine induction nested.2 { candle with time := middle.bucketStart candle.time }
            { candle with time := target.bucketStart candle.time }
            (fun finished => { finished with time := target.bucketStart finished.time })
            (fun finished sameTime sameOpen => ?_) nested.1 rfl continued
          rw [Candle.outline, sameTime, sameOpen, nested.1]

/-! ## Resampling -/

/-- The bars that candles are gathered into. -/
def gathered (target : Timeframe) : List Candle → List Candle
  | [] => []
  | first :: rest =>
      gatherBars target { first with time := target.bucketStart first.time } rest

variable {source middle target : Timeframe} {candles : List Candle}

theorem resample?_eq_gathered (different : source ≠ target)
    (whole : source.seconds ∣ target.seconds) :
    resample? source target candles = some (gathered target candles) := by
  unfold resample?
  rw [if_neg different, if_pos (Timeframe.isMultipleOf_iff.2 whole)]
  cases candles <;> rfl

theorem resample?_eq_none_iff (different : source ≠ target) :
    resample? source target candles = none ↔ ¬ source.seconds ∣ target.seconds := by
  constructor
  · intro refused whole
    rw [resample?_eq_gathered different whole] at refused
    cases refused
  · intro notWhole
    unfold resample?
    rw [if_neg different, if_neg (mt Timeframe.isMultipleOf_iff.1 notWhole)]

theorem gathered_bucketed
    (starts : ∀ candle ∈ candles,
      target.bucketStart candle.time = target.barOpening candle.time)
    (ordered : candles.Pairwise (fun earlier later => earlier.time ≤ later.time)) :
    Bucketed target candles (gathered target candles) := by
  cases candles with
  | nil => exact .nil
  | cons first rest =>
      rw [List.forall_mem_cons] at starts
      rw [List.pairwise_cons] at ordered
      refine gatherBars_bucketed starts.2 ordered.2 ?_ (first.summarizes_self _) ?_
      · intro candle member
        rw [starts.1]
        exact Timeframe.barOpening_mono (ordered.1 candle member)
      · simpa using starts.1.symm

theorem outline_gathered_gathered
    (nested : ∀ candle ∈ candles, target.bucketStart (middle.bucketStart candle.time) =
      target.bucketStart candle.time) :
    (gathered target (gathered middle candles)).map Candle.outline =
      (gathered target candles).map Candle.outline := by
  cases candles with
  | nil => rfl
  | cons first rest =>
      rw [List.forall_mem_cons] at nested
      obtain ⟨finished, later, continued, -, -⟩ := exists_gatherBars middle
        { first with time := middle.bucketStart first.time } rest
      rw [gathered, continued]
      refine outline_gatherBars_gatherBars nested.2
        { first with time := middle.bucketStart first.time }
        { first with time := target.bucketStart first.time }
        (fun finished => { finished with time := target.bucketStart finished.time })
        (fun finished sameTime sameOpen => ?_) nested.1 rfl continued
      rw [Candle.outline, sameTime, sameOpen, nested.1]

/-- A timeframe that consists of whole bars of another, and the other of its, is the other. -/
theorem Timeframe.eq_of_dvd_of_dvd (forth : source.seconds ∣ target.seconds)
    (back : target.seconds ∣ source.seconds) : source = target := by
  obtain ⟨seconds, wholeMinutes, fitsWord⟩ := source
  obtain ⟨others, otherMinutes, otherFits⟩ := target
  cases Nat.dvd_antisymm forth back
  rfl

/-- Candles come to the same outlines by way of a timeframe in between, as long as its bars fall
where their candles do. -/
theorem resample?_resample? (first : source.seconds ∣ middle.seconds)
    (second : middle.seconds ∣ target.seconds)
    (nested : ∀ candle ∈ candles, target.bucketStart (middle.bucketStart candle.time) =
      target.bucketStart candle.time) :
    ∃ shorter twice once, resample? source middle candles = some shorter ∧
      resample? middle target shorter = some twice ∧
      resample? source target candles = some once ∧
      twice.map Candle.outline = once.map Candle.outline := by
  by_cases sameFirst : source = middle
  · subst sameFirst
    by_cases sameSecond : source = target
    · subst sameSecond
      have kept := Snapshot.resample?_self source candles
      exact ⟨_, _, _, kept, kept, kept, rfl⟩
    · have resampled : resample? source target candles = some (gathered target candles) :=
        resample?_eq_gathered sameSecond second
      exact ⟨_, _, _, Snapshot.resample?_self source candles, resampled, resampled, rfl⟩
  by_cases sameSecond : middle = target
  · subst sameSecond
    have resampled : resample? source middle candles = some (gathered middle candles) :=
      resample?_eq_gathered sameFirst first
    exact ⟨_, _, _, resampled, Snapshot.resample?_self middle _, resampled, rfl⟩
  have sameBoth : source ≠ target := by
    rintro rfl
    exact sameFirst (Timeframe.eq_of_dvd_of_dvd first second)
  exact ⟨_, _, _, resample?_eq_gathered sameFirst first, resample?_eq_gathered sameSecond second,
    resample?_eq_gathered sameBoth (first.trans second), outline_gathered_gathered nested⟩

/-- What resampling gives: nothing where `target` does not consist of whole bars of `source`, and
otherwise, from candles in order of time, one bar for each bucket that holds a candle. In whatever
order the candles come, a timeframe in between makes no difference to the outlines. -/
theorem resampling_buckets_exactly (source target : Timeframe)
    (fits : (target.seconds : Int) ≤ Word.greatest) :
    (source ≠ target →
      (∀ candles, resample? source target candles = none ↔ ¬ source.seconds ∣ target.seconds) ∧
      (source.seconds ∣ target.seconds → ∀ candles : List Candle,
        candles.Pairwise (fun earlier later => earlier.time ≤ later.time) →
        (∀ candle ∈ candles, Word.Holds (target.barOpening candle.time)) →
        ∃ bars, resample? source target candles = some bars ∧
          bars.Pairwise (fun earlier later => earlier.time < later.time) ∧
          (∀ bar ∈ bars, (target.seconds : Int) ∣ bar.time) ∧
          (∀ start, start ∈ bars.map Candle.time ↔
            ∃ candle ∈ candles, target.barOpening candle.time = start) ∧
          (∀ bar ∈ bars, ∃ first others,
            target.candlesAt candles bar.time = first :: others ∧ bar.Summarizes first others) ∧
          bars.flatMap (fun bar => target.candlesAt candles bar.time) = candles)) ∧
    (∀ middle : Timeframe, source.seconds ∣ middle.seconds → middle.seconds ∣ target.seconds →
      ∀ candles : List Candle, (∀ candle ∈ candles, Word.Holds candle.time) →
        (∀ candle ∈ candles, Word.Holds (target.barOpening candle.time)) →
        ∃ shorter twice once, resample? source middle candles = some shorter ∧
          resample? middle target shorter = some twice ∧
          resample? source target candles = some once ∧
          twice.map Candle.outline = once.map Candle.outline) := by
  refine ⟨fun different => ⟨fun candles => resample?_eq_none_iff different, ?_⟩, ?_⟩
  · intro whole candles ordered holds
    have bucketed : Bucketed target candles (gathered target candles) :=
      gathered_bucketed (fun candle member => Timeframe.bucketStart_eq fits (holds candle member))
        ordered
    refine ⟨_, resample?_eq_gathered different whole, bucketed.times_increase, ?_, ?_,
      bucketed.summarizes, bucketed.flatMap_candlesAt⟩
    · intro bar member
      obtain ⟨candle, -, same⟩ := bucketed.exists_candle member
      exact same ▸ Timeframe.dvd_barOpening
    · intro start
      constructor
      · intro member
        obtain ⟨bar, there, rfl⟩ := List.mem_map.1 member
        exact bucketed.exists_candle there
      · rintro ⟨candle, member, rfl⟩
        obtain ⟨bar, there, same⟩ := bucketed.exists_bar member
        exact List.mem_map.2 ⟨bar, there, same.symm⟩
  · intro middle first second candles words holds
    refine resample?_resample? first second fun candle member => ?_
    have middleFits : (middle.seconds : Int) ≤ Word.greatest := by
      have shorter := Nat.le_of_dvd (by have := target.seconds_pos; omega) second
      omega
    -- The bucket of the timeframe in between lies between the bucket of the target and the time.
    have middleHolds : Word.Holds (middle.barOpening candle.time) :=
      ⟨(holds candle member).1.trans (Timeframe.barOpening_le_barOpening second),
        Timeframe.barOpening_le.trans (words candle member).2⟩
    rw [Timeframe.bucketStart_eq middleFits middleHolds,
      Timeframe.bucketStart_eq fits (holds candle member), Timeframe.bucketStart_eq fits,
      Timeframe.barOpening_barOpening second]
    rw [Timeframe.barOpening_barOpening second]
    exact holds candle member

def threeHours : Timeframe := ⟨10800, by decide, by decide⟩

def sixHours : Timeframe := ⟨21600, by decide, by decide⟩

/-- Candles before and after the time zero, with a gap behind the second bar of six hours. -/
def candlesAroundZero : List Candle :=
  [{ time := -3600, openPrice := 5.0, high := 6.0, low := 4.0, close := 5.5, volume := 1.0 },
    { time := 0, openPrice := 5.5, high := 7.0, low := 5.0, close := 6.0, volume := 2.0 },
    { time := 10800, openPrice := 6.0, high := 6.5, low := 3.0, close := 4.0, volume := 3.0 },
    { time := 43200, openPrice := 4.0, high := 4.5, low := 3.5, close := 4.0, volume := 1.0 }]

theorem hours_fill_their_six_hours :
    (∃ bars, resample? Timeframe.hour sixHours candlesAroundZero = some bars ∧
      -21600 ∈ bars.map Candle.time ∧
      bars.flatMap (fun bar => sixHours.candlesAt candlesAroundZero bar.time) =
        candlesAroundZero) ∧
    (∃ shorter twice once,
      resample? Timeframe.hour threeHours candlesAroundZero.reverse = some shorter ∧
      resample? threeHours sixHours shorter = some twice ∧
      resample? Timeframe.hour sixHours candlesAroundZero.reverse = some once ∧
      twice.map Candle.outline = once.map Candle.outline) := by
  obtain ⟨buckets, between⟩ :=
    resampling_buckets_exactly Timeframe.hour sixHours (by decide)
  obtain ⟨bars, resampled, -, -, starts, -, parts⟩ := (buckets (by decide)).2 (by decide)
    candlesAroundZero (by decide) (by decide)
  exact ⟨⟨bars, resampled, (starts (-21600)).2 ⟨_, List.mem_cons_self, by decide⟩, parts⟩,
    between threeHours (by decide) (by decide) candlesAroundZero.reverse (by decide) (by decide)⟩

end CandleAlerts
