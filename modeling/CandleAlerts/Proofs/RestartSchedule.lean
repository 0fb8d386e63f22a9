import CandleAlerts.Supervisor
import Mathlib.Algebra.Group.Nat.Defs

/-!
When supervision starts a task again.

After a failed run supervision waits a second, doubled once for every failure since the latest run
that lasted more than a minute, and never more than a minute. It goes on so up to the first run that
ends well, which is the last one it starts.
-/

namespace CandleAlerts.Supervisor

/-! ## The schedule -/

section Schedule

variable (second : Nat) (runs : Nat → TaskRun) (now : Nat)

/-- Whether a run lasted more than a minute. -/
def IsStable (run : TaskRun) : Prop := 60 * second < run.duration

instance (run : TaskRun) : Decidable (IsStable second run) :=
  inferInstanceAs (Decidable (60 * second < run.duration))

/-- The latest of the runs up to a number that lasted more than a minute. -/
def latestStable? (number : Nat) : Option Nat :=
  (List.range (number + 1)).reverse.find? (fun earlier => IsStable second (runs earlier))

/-- How many runs have failed since the latest that lasted more than a minute, which is not counted;
without such a run, how many have failed before. -/
def failuresSince (number : Nat) : Nat :=
  match latestStable? second runs number with
  | some stable => number - stable
  | none => number

/-- A second, doubled so many times, and at most a minute. -/
def doubled (times : Nat) : Nat := second * min 60 (2 ^ times)

/-- The wait after a run that failed. -/
def scheduledWait (number : Nat) : Nat := doubled second (failuresSince second runs number)

/-- When a run starts if all before it failed. -/
def scheduledStart : Nat → Nat
  | 0 => now
  | number + 1 =>
      scheduledStart number + (runs number).duration + scheduledWait second runs number

def scheduledEnd (number : Nat) : Nat :=
  scheduledStart second runs now number + (runs number).duration

/-- What supervision comes to if it starts the runs from `first` to `last`: the last one ended well,
or at the limit it was still running, or it had failed and the wait after it was not over. -/
inductive ComesTo (limit first last : Nat) : Supervision → Prop where
  | finished (succeeds : (runs last).succeeds = true)
      (inTime : scheduledEnd second runs now last ≤ limit) :
      ComesTo limit first last
        { starts := (List.range' first (last + 1 - first)).map (scheduledStart second runs now)
          failures := last - first
          finished := true
          endedAt := scheduledEnd second runs now last }
  | running (goesOn : limit < scheduledEnd second runs now last) :
      ComesTo limit first last
        { starts := (List.range' first (last + 1 - first)).map (scheduledStart second runs now)
          failures := last - first
          finished := false
          endedAt := limit }
  | waiting (fails : (runs last).succeeds = false)
      (inTime : scheduledEnd second runs now last ≤ limit)
      (goesOn : limit < scheduledStart second runs now (last + 1)) :
      ComesTo limit first last
        { starts := (List.range' first (last + 1 - first)).map (scheduledStart second runs now)
          failures := last + 1 - first
          finished := false
          endedAt := limit }

end Schedule

/-! ## The waits -/

section Waits

variable {second : Nat} {runs : Nat → TaskRun}

theorem doubled_zero : doubled second 0 = second := Nat.mul_one second

/-- The next wait is the one before, doubled once more. -/
theorem nextWait_doubled (times : Nat) :
    nextWait second (doubled second times) = doubled second (times + 1) := by
  have inside : min (min 60 (2 ^ times) * 2) 60 = min 60 (2 ^ (times + 1)) := by
    rw [Nat.pow_succ]
    omega
  calc min (second * min 60 (2 ^ times) * 2) (60 * second)
      = min (second * (min 60 (2 ^ times) * 2)) (second * 60) := by
        rw [Nat.mul_assoc, Nat.mul_comm 60]
    _ = second * min (min 60 (2 ^ times) * 2) 60 := (Nat.mul_min_mul_left second _ _)
    _ = doubled second (times + 1) := by rw [inside]; rfl

theorem le_doubled (times : Nat) : second ≤ doubled second times := by
  have positive : 1 ≤ min 60 (2 ^ times) := Nat.le_min.2 ⟨by decide, Nat.one_le_two_pow⟩
  calc second = second * 1 := (Nat.mul_one second).symm
    _ ≤ doubled second times := Nat.mul_le_mul_left second positive

theorem doubled_le (times : Nat) : doubled second times ≤ 60 * second := by
  rw [Nat.mul_comm]
  exact Nat.mul_le_mul_left second (Nat.min_le_left _ _)

theorem latestStable?_succ (number : Nat) :
    latestStable? second runs (number + 1) =
      if IsStable second (runs (number + 1)) then some (number + 1)
      else latestStable? second runs number := by
  unfold latestStable?
  rw [List.range_succ, List.reverse_append, List.reverse_singleton, List.singleton_append,
    List.find?_cons]
  by_cases stable : IsStable second (runs (number + 1)) <;> simp [stable]

theorem le_of_latestStable? {number stable : Nat}
    (latest : latestStable? second runs number = some stable) : stable ≤ number := by
  have member := List.mem_of_find?_eq_some latest
  rw [List.mem_reverse, List.mem_range] at member
  exact Nat.le_of_lt_succ member

theorem failuresSince_of_isStable {number : Nat} (stable : IsStable second (runs number)) :
    failuresSince second runs number = 0 := by
  have latest : latestStable? second runs number = some number := by
    cases number with
    | zero => simp [latestStable?, stable]
    | succ number => rw [latestStable?_succ, if_pos stable]
  rw [failuresSince, latest]
  exact Nat.sub_self number

theorem failuresSince_succ {number : Nat} (unstable : ¬IsStable second (runs (number + 1))) :
    failuresSince second runs (number + 1) = failuresSince second runs number + 1 := by
  rw [failuresSince, latestStable?_succ, if_neg unstable, failuresSince]
  cases latest : latestStable? second runs number with
  | none => rfl
  | some stable => exact Nat.succ_sub (le_of_latestStable? latest)

theorem failuresSince_zero : failuresSince second runs 0 = 0 := by
  by_cases stable : IsStable second (runs 0)
  · exact failuresSince_of_isStable stable
  · simp [failuresSince, latestStable?, stable]

/-- The wait that supervision has ready when a run starts. -/
def readyWait (second : Nat) (runs : Nat → TaskRun) : Nat → Nat
  | 0 => shortestWait second
  | number + 1 => nextWait second (scheduledWait second runs number)

/-- What supervision makes of the wait it has ready is the wait of the schedule. -/
theorem waitAfter_readyWait (number : Nat) :
    waitAfter second (readyWait second runs number) (runs number) =
      scheduledWait second runs number := by
  by_cases stable : IsStable second (runs number)
  · rw [waitAfter, if_pos (show stableAfter second < _ from stable), scheduledWait,
      failuresSince_of_isStable stable, doubled_zero]
    rfl
  · rw [waitAfter, if_neg (show ¬stableAfter second < _ from stable), scheduledWait]
    cases number with
    | zero => rw [failuresSince_zero, doubled_zero]; rfl
    | succ number => rw [failuresSince_succ stable, ← nextWait_doubled]; rfl

end Waits

/-! ## The runs -/

section Runs

variable {second now limit : Nat} {runs : Nat → TaskRun}

/-- The runs start a second apart at least. -/
theorem le_scheduledStart (number : Nat) :
    now + number * second ≤ scheduledStart second runs now number := by
  induction number with
  | zero => simp [scheduledStart]
  | succ number induction =>
      have wait : second ≤ scheduledWait second runs number := le_doubled _
      rw [scheduledStart, Nat.succ_mul]
      omega

/-- A failed run before the first one counts as one more start and one more failure. -/
theorem ComesTo.earlier {first last : Nat} {supervision : Supervision} (after : first + 1 ≤ last)
    (comesTo : ComesTo second runs now limit (first + 1) last supervision) :
    ComesTo second runs now limit first last
      { supervision with
        starts := scheduledStart second runs now first :: supervision.starts
        failures := supervision.failures + 1 } := by
  have starts : (List.range' first (last + 1 - first)).map (scheduledStart second runs now) =
      scheduledStart second runs now first ::
        (List.range' (first + 1) (last + 1 - (first + 1))).map
          (scheduledStart second runs now) := by
    rw [show last + 1 - first = (last + 1 - (first + 1)) + 1 by omega, List.range'_succ,
      List.map_cons]
  have failures : last - (first + 1) + 1 = last - first := by omega
  have allFailures : last + 1 - (first + 1) + 1 = last + 1 - first := by omega
  cases comesTo with
  | finished succeeds inTime =>
      simp only [← starts, failures]
      exact .finished succeeds inTime
  | running goesOn =>
      simp only [← starts, failures]
      exact .running goesOn
  | waiting fails inTime goesOn =>
      simp only [← starts, allFailures]
      exact .waiting fails inTime goesOn

/-- Supervision from a run on follows the schedule, by induction on how many runs are given. -/
theorem supervise_comesTo (first count : Nat) (begun : scheduledStart second runs now first ≤ limit)
    (enough : limit < scheduledStart second runs now (first + count)) :
    ∃ last, first ≤ last ∧
      (∀ number, first ≤ number → number < last → (runs number).succeeds = false) ∧
      scheduledStart second runs now last ≤ limit ∧
      ComesTo second runs now limit first last
        (superviseBy second limit (readyWait second runs first)
          (scheduledStart second runs now first) ((List.range' first count).map runs)) := by
  induction count generalizing first with
  | zero => exact absurd enough (Nat.not_lt.2 begun)
  | succ count induction =>
      have alone : [scheduledStart second runs now first] =
          (List.range' first (first + 1 - first)).map (scheduledStart second runs now) := by
        simp
      have noneBetween : ∀ number, first ≤ number → number < first →
          (runs number).succeeds = false := by
        intro number le lt
        exact absurd lt (Nat.not_lt.2 le)
      rw [List.range'_succ, List.map_cons, superviseBy]
      simp only [waitAfter_readyWait]
      by_cases goesOn : limit < scheduledEnd second runs now first
      · refine ⟨first, Nat.le_refl _, noneBetween, begun, ?_⟩
        have running : ComesTo second runs now limit first first _ := .running goesOn
        rw [if_pos (show limit < _ + _ from goesOn)]
        rwa [← alone, Nat.sub_self] at running
      have inTime := Nat.le_of_not_lt goesOn
      rw [if_neg (show ¬limit < _ + _ from goesOn)]
      cases ends : (runs first).succeeds with
      | true =>
          refine ⟨first, Nat.le_refl _, noneBetween, begun, ?_⟩
          have finished : ComesTo second runs now limit first first _ := .finished ends inTime
          rw [if_pos rfl]
          rwa [← alone, Nat.sub_self] at finished
      | false =>
          rw [if_neg Bool.false_ne_true]
          by_cases cut : limit < scheduledStart second runs now (first + 1)
          · refine ⟨first, Nat.le_refl _, noneBetween, begun, ?_⟩
            have waiting : ComesTo second runs now limit first first _ := .waiting ends inTime cut
            rw [if_pos (show limit < _ + _ + _ from cut)]
            rwa [← alone, Nat.add_sub_cancel_left] at waiting
          · rw [if_neg (show ¬limit < _ + _ + _ from cut)]
            obtain ⟨last, after, fails, started, comesTo⟩ :=
              induction (first + 1) (Nat.le_of_not_lt cut) (by rwa [Nat.add_right_comm] at *)
            refine ⟨last, by omega, ?_, started, comesTo.earlier after⟩
            intro number le lt
            rcases Nat.eq_or_lt_of_le le with rfl | later
            · exact ends
            · exact fails number later lt

/-- Supervision of any sequence of runs, watched up to a limit that the given number of runs cannot
begin within. It starts each run when the schedule says, as long as all before it failed, ends with
the first one that ends well and starts none after it; only the limit stops it otherwise. After a
failed run it waits a second, doubled for each failure since the latest run of more than a minute,
and no longer than a minute. -/
theorem restarts_until_success {count : Nat} (begun : now ≤ limit)
    (enough : limit < now + count * second) :
    (∃ last, (∀ number < last, (runs number).succeeds = false) ∧
      scheduledStart second runs now last ≤ limit ∧
      ComesTo second runs now limit 0 last
        (superviseBy second limit (shortestWait second) now ((List.range count).map runs))) ∧
    ∀ number, scheduledWait second runs number =
        second * min 60 (2 ^ failuresSince second runs number) ∧
      second ≤ scheduledWait second runs number ∧
      scheduledWait second runs number ≤ 60 * second := by
  constructor
  · have tooMany : limit < scheduledStart second runs now (0 + count) := by
      rw [Nat.zero_add]
      exact Nat.lt_of_lt_of_le enough (le_scheduledStart count)
    obtain ⟨last, -, fails, started, comesTo⟩ := supervise_comesTo 0 count begun tooMany
    rw [← List.range_eq_range'] at comesTo
    exact ⟨last, fun number => fails number (Nat.zero_le number), started, comesTo⟩
  · intro number
    exact ⟨rfl, le_doubled _, doubled_le _⟩

end Runs

/-- Three failures, the second after a minute and the third after more than a minute, a fourth at
once, and then a run that ends well, in milliseconds. -/
def mixedRuns (number : Nat) : TaskRun :=
  [⟨5, false⟩, ⟨60000, false⟩, ⟨60001, false⟩, ⟨0, false⟩, ⟨10, true⟩].getD number ⟨0, true⟩

/-- A minute sets nothing back, and more than a minute does. -/
theorem mixed_runs_restart :
    0 ≤ 130000 ∧ 130000 < 0 + 131 * 1000 ∧
    (∃ last, (∀ number < last, (mixedRuns number).succeeds = false) ∧
      scheduledStart 1000 mixedRuns 0 last ≤ 130000 ∧
      ComesTo 1000 mixedRuns 0 130000 0 last
        (superviseBy 1000 130000 (shortestWait 1000) 0 ((List.range 131).map mixedRuns))) ∧
    supervise 130000 firstWait 0 ((List.range 131).map mixedRuns) =
      { starts := [0, 1005, 63005, 124006, 126006], failures := 4, finished := true
        endedAt := 126016 } :=
  ⟨by decide, by decide,
    (restarts_until_success (by decide : 0 ≤ 130000) (by decide : 130000 < 0 + 131 * 1000)).1,
    by decide⟩

end CandleAlerts.Supervisor
