import CandleAlerts.Proofs.PlaybookPass

/-!
Latches over whole runs of a playbook.

A run feeds the latches that each pass keeps into the next one. A latch remembers the pass that
wrote it, so an entry counts as satisfied as long as its window is open, and is evaluated again by
the first pass after that.
-/

namespace CandleAlerts

/-! ## Windows -/

theorem Instant.notAfter_iff (first second : Instant) :
    first.notAfter second = true ↔
      first.seconds < second.seconds ∨
        (first.seconds = second.seconds ∧ first.nanos ≤ second.nanos) := by
  simp [notAfter]

theorem Instant.notAfter_trans {first second third : Instant}
    (earlier : first.notAfter second = true) (later : second.notAfter third = true) :
    first.notAfter third = true := by
  rw [notAfter_iff] at earlier later ⊢
  omega

/-- Whether a pass lies inside the window that an entry opens when it is satisfied at an earlier
one: so many bars, or minutes from the opening of its bar, counting the last. -/
def PlaybookEntry.WindowHolds (entry : PlaybookEntry) (written later : PassMoment) : Prop :=
  match entry.validityUnit with
  | .bars => later.barIndex - written.barIndex ≤ entry.validity
  | .minutes => later.now.notAfter (written.barTime.addMinutes entry.validity) = true

instance (entry : PlaybookEntry) (written later : PassMoment) :
    Decidable (entry.WindowHolds written later) := by
  simp only [PlaybookEntry.WindowHolds]
  split <;> infer_instance

/-- Moments in order: neither the number of the bar nor the time goes back. -/
def PassMoment.NotAfter (first second : PassMoment) : Prop :=
  first.barIndex ≤ second.barIndex ∧ first.now.notAfter second.now = true

instance (first second : PassMoment) : Decidable (first.NotAfter second) :=
  inferInstanceAs (Decidable (_ ∧ _))

theorem PassMoment.NotAfter.trans {first second third : PassMoment}
    (earlier : first.NotAfter second) (later : second.NotAfter third) : first.NotAfter third :=
  ⟨Int.le_trans earlier.1 later.1, Instant.notAfter_trans earlier.2 later.2⟩

/-- A window that is open at a moment was open at every moment before. -/
theorem PlaybookEntry.WindowHolds.of_notAfter {entry : PlaybookEntry}
    {written middle later : PassMoment} (holds : entry.WindowHolds written later)
    (order : middle.NotAfter later) : entry.WindowHolds written middle := by
  simp only [WindowHolds] at holds ⊢
  cases unit : entry.validityUnit with
  | bars =>
      simp only [unit] at holds
      have := order.1
      simp only
      omega
  | minutes =>
      simp only [unit] at holds
      exact Instant.notAfter_trans order.2 holds

/-- A number of a bar of at most `2 ^ 61`, so that the distance of two of them is a word. -/
def PassMoment.Representable (moment : PassMoment) : Prop :=
  -2305843009213693952 ≤ moment.barIndex ∧ moment.barIndex ≤ 2305843009213693952

/-- For later moments the latch of an entry is valid exactly inside its window. -/
theorem PlaybookEntry.newLatch_isValid_iff (entry : PlaybookEntry) {written later : PassMoment}
    (writtenSmall : written.Representable) (laterSmall : later.Representable)
    (order : written.NotAfter later) :
    (entry.newLatch written).isValid later.barIndex later.now = true ↔
      entry.WindowHolds written later := by
  simp only [newLatch, WindowHolds]
  cases entry.validityUnit with
  | bars =>
      rcases writtenSmall with ⟨writtenLow, writtenHigh⟩
      rcases laterSmall with ⟨laterLow, laterHigh⟩
      have forward := order.1
      have exact : Word.sub later.barIndex written.barIndex = later.barIndex - written.barIndex :=
        Word.wrap_eq_self (by unfold Word.Holds Word.least Word.greatest; omega)
      simp only [Latch.isValid, exact, Bool.and_eq_true, decide_eq_true_eq]
      omega
  | minutes => rfl

/-! ## Moments of snapshots -/

theorem Instant.ofSeconds?_eq_some {seconds : Int} {instant : Instant}
    (given : Instant.ofSeconds? seconds = some instant) :
    firstSecond ≤ seconds ∧ seconds ≤ lastSecond ∧ instant = { seconds, nanos := 0 } := by
  simp only [ofSeconds?] at given
  split at given
  · rename_i within
    exact ⟨within.1, within.2, (Option.some.inj given).symm⟩
  · cases given

/-- A snapshot whose latest base bar opens at an instant of the calendar. -/
def Snapshot.OpensAt (snapshot : Snapshot) (opening : Instant) : Prop :=
  snapshot.barTime?.bind Instant.ofSeconds? = some opening

instance (snapshot : Snapshot) (opening : Instant) : Decidable (snapshot.OpensAt opening) :=
  inferInstanceAs (Decidable (_ = _))

/-- The bars of the calendar have small numbers, whatever the length of the bars. -/
theorem PassMoment.of_representable {snapshot : Snapshot} {opening : Instant}
    (opens : snapshot.OpensAt opening) (now : Instant) :
    (PassMoment.of snapshot now).Representable := by
  rcases Option.bind_eq_some_iff.1 opens with ⟨time, barTime, given⟩
  rcases Instant.ofSeconds?_eq_some given with ⟨low, high, -⟩
  have first : Instant.firstSecond = -8334601228800 := by decide
  have last : Instant.lastSecond = 8210266876799 := by decide
  have quotient := Int.natAbs_ediv_le_natAbs time (Word.wrap snapshot.base.seconds)
  simp only [Representable, PassMoment.of, Snapshot.barIndex?, barTime, Option.map_some,
    Option.getD_some, Timeframe.barIndex]
  omega

/-! ## Runs -/

/-- What a pass is made over: a snapshot, and the time of the pass. -/
structure PassInput where
  snapshot : Snapshot
  now : Instant

def PassInput.moment (input : PassInput) : PassMoment := .of input.snapshot input.now

namespace Playbook

/-- The latches that go into each pass of a run: none at first, then those that the pass before
kept. -/
def latchesBefore (playbook : Playbook) (inputs : Nat → PassInput) : Nat → Latches
  | 0 => Table.empty
  | step + 1 =>
      (playbook.evaluate (inputs step).snapshot (playbook.latchesBefore inputs step)
        (inputs step).now).latches

/-- What each pass of a run comes to. -/
def outcomeAt (playbook : Playbook) (inputs : Nat → PassInput) (step : Nat) : LogicOutcome :=
  playbook.evaluate (inputs step).snapshot (playbook.latchesBefore inputs step) (inputs step).now

/-- Whether an entry is evaluated by a pass of a run, and not held by a latch. -/
def EvaluatedAt (playbook : Playbook) (inputs : Nat → PassInput) (entry : PlaybookEntry)
    (step : Nat) : Prop :=
  entry.heldBy? (playbook.latchesBefore inputs step) (inputs step).moment = none

/-- Whether the condition of an entry is true in the snapshot of a pass. -/
def TrueAt (inputs : Nat → PassInput) (entry : PlaybookEntry) (step : Nat) : Prop :=
  ((inputs step).snapshot.evaluate entry.condition).satisfied = true

instance (inputs : Nat → PassInput) (entry : PlaybookEntry) (step : Nat) :
    Decidable (TrueAt inputs entry step) :=
  inferInstanceAs (Decidable (_ = _))

/-- Whether a pass of a run opens the window of an entry. -/
structure OpensWindow (playbook : Playbook) (inputs : Nat → PassInput) (entry : PlaybookEntry)
    (step : Nat) : Prop where
  evaluated : playbook.EvaluatedAt inputs entry step
  isTrue : TrueAt inputs entry step
  valid : 0 < entry.validity

/-- A run up to its last pass: every snapshot has a base bar that opens on the calendar, and neither
the numbers of the bars nor the times of the passes go back. -/
structure Proceeds (inputs : Nat → PassInput) (last : Nat) : Prop where
  opens : ∀ step ≤ last, ∃ opening, (inputs step).snapshot.OpensAt opening
  forward : ∀ step < last, (inputs step).moment.NotAfter (inputs (step + 1)).moment

namespace Proceeds

variable {inputs : Nat → PassInput} {last : Nat}

theorem notAfter (proceeds : Proceeds inputs last) {earlier later : Nat} (order : earlier < later)
    (within : later ≤ last) : (inputs earlier).moment.NotAfter (inputs later).moment := by
  induction later with
  | zero => omega
  | succ step induction =>
      have next := proceeds.forward step (by omega)
      by_cases same : earlier = step
      · subst same
        exact next
      · exact (induction (by omega) (by omega)).trans next

theorem representable (proceeds : Proceeds inputs last) {step : Nat} (within : step ≤ last) :
    (inputs step).moment.Representable := by
  rcases proceeds.opens step within with ⟨opening, opens⟩
  exact PassMoment.of_representable opens _

/-- A window that is open at a pass was open at every pass since it was opened. -/
theorem window_open_between (proceeds : Proceeds inputs last) {entry : PlaybookEntry}
    {written later : Nat} (within : later ≤ last)
    (holds : entry.WindowHolds (inputs written).moment (inputs later).moment) {step : Nat}
    (before : step < later) : entry.WindowHolds (inputs written).moment (inputs step).moment :=
  holds.of_notAfter (proceeds.notAfter before within)

end Proceeds

section Run

variable (playbook : Playbook) (inputs : Nat → PassInput)
  (distinct : (playbook.entries.map PlaybookEntry.id).Nodup)
  {entry : PlaybookEntry} (member : entry ∈ playbook.entries) (enabled : entry.enabled = true)

include distinct member enabled

/-- The latch that goes into the next pass is the one that this pass keeps. -/
theorem latchesBefore_succ_get? (step : Nat) :
    (playbook.latchesBefore inputs (step + 1)).get? entry.id =
      entry.kept? (inputs step).snapshot.evaluate (playbook.latchesBefore inputs step)
        (inputs step).moment := by
  rw [latchesBefore]
  exact playbook.evaluate_latches_get? _ _ _ distinct entry member enabled

/-- A pass that opens a window writes the latch of that pass. -/
theorem latch_of_opensWindow {step : Nat} (opened : playbook.OpensWindow inputs entry step) :
    (playbook.latchesBefore inputs (step + 1)).get? entry.id =
      some (entry.newLatch (inputs step).moment) := by
  have isTrue : ((inputs step).snapshot.evaluate entry.condition).satisfied = true := opened.isTrue
  have valid := opened.valid
  rw [playbook.latchesBefore_succ_get? inputs distinct member enabled,
    PlaybookEntry.kept?_of_fresh opened.evaluated]
  simp [isTrue, valid]

/-- While a window stays open, every pass takes over the latch that opened it. -/
theorem latch_while_open {last : Nat} (proceeds : Proceeds inputs last) {written : Nat}
    (opened : playbook.OpensWindow inputs entry written) {step : Nat} (after : written < step)
    (within : step ≤ last + 1)
    (holds : ∀ middle, written < middle → middle < step →
      entry.WindowHolds (inputs written).moment (inputs middle).moment) :
    (playbook.latchesBefore inputs step).get? entry.id =
      some (entry.newLatch (inputs written).moment) := by
  induction step with
  | zero => omega
  | succ step induction =>
      by_cases first : step = written
      · subst first
        exact playbook.latch_of_opensWindow inputs distinct member enabled opened
      · have later : written < step := by omega
        have stored := induction later (by omega)
          (fun middle afterWritten before => holds middle afterWritten (by omega))
        have valid := (entry.newLatch_isValid_iff (proceeds.representable (by omega))
          (proceeds.representable (by omega)) (proceeds.notAfter later (by omega))).2
          (holds step later (by omega))
        have held : entry.heldBy? (playbook.latchesBefore inputs step) (inputs step).moment =
            some (entry.newLatch (inputs written).moment) :=
          (entry.heldBy?_eq_some_iff _ _ _).2 ⟨stored, valid⟩
        rw [playbook.latchesBefore_succ_get? inputs distinct member enabled,
          PlaybookEntry.kept?_of_held held]

/-- Every latch that goes into a pass was written by an earlier pass that opened a window. -/
theorem written_of_latch {step : Nat} {latch : Latch}
    (stored : (playbook.latchesBefore inputs step).get? entry.id = some latch) :
    ∃ written < step, playbook.OpensWindow inputs entry written ∧
      latch = entry.newLatch (inputs written).moment := by
  induction step generalizing latch with
  | zero => simp [latchesBefore] at stored
  | succ step induction =>
      rw [playbook.latchesBefore_succ_get? inputs distinct member enabled] at stored
      cases held : entry.heldBy? (playbook.latchesBefore inputs step) (inputs step).moment with
      | some holding =>
          rw [PlaybookEntry.kept?_of_held held] at stored
          have same : holding = latch := Option.some.inj stored
          have before := ((entry.heldBy?_eq_some_iff _ _ _).1 held).1
          rcases induction before with ⟨written, earlier, opened, writtenLatch⟩
          exact ⟨written, by omega, opened, same ▸ writtenLatch⟩
      | none =>
          rw [PlaybookEntry.kept?_of_fresh held] at stored
          split at stored
          · rename_i opens
            simp only [Bool.and_eq_true, decide_eq_true_eq] at opens
            exact ⟨step, by omega, ⟨held, opens.1, opens.2⟩, (Option.some.inj stored).symm⟩
          · cases stored

/-- A pass is held by a latch exactly when it lies inside the window that an earlier pass opened. -/
theorem heldBy?_eq_some_iff_window {last : Nat} (proceeds : Proceeds inputs last) {step : Nat}
    (within : step ≤ last) (latch : Latch) :
    entry.heldBy? (playbook.latchesBefore inputs step) (inputs step).moment = some latch ↔
      ∃ written < step, playbook.OpensWindow inputs entry written ∧
        entry.WindowHolds (inputs written).moment (inputs step).moment ∧
        latch = entry.newLatch (inputs written).moment := by
  rw [entry.heldBy?_eq_some_iff]
  constructor
  · rintro ⟨stored, valid⟩
    rcases playbook.written_of_latch inputs distinct member enabled stored with
      ⟨written, earlier, opened, rfl⟩
    have holds := (entry.newLatch_isValid_iff (proceeds.representable (by omega))
      (proceeds.representable within) (proceeds.notAfter earlier within)).1 valid
    exact ⟨written, earlier, opened, holds, rfl⟩
  · rintro ⟨written, earlier, opened, holds, rfl⟩
    refine ⟨?_, (entry.newLatch_isValid_iff (proceeds.representable (by omega))
      (proceeds.representable within) (proceeds.notAfter earlier within)).2 holds⟩
    exact playbook.latch_while_open inputs distinct member enabled proceeds opened earlier
      (by omega) (fun middle _ before => proceeds.window_open_between within holds before)

/-- As long as its window is open until a pass, the entry is evaluated by that pass exactly when the
window has closed. -/
theorem evaluatedAt_iff_window_closed {last : Nat} (proceeds : Proceeds inputs last) {written : Nat}
    (opened : playbook.OpensWindow inputs entry written) {step : Nat} (after : written < step)
    (within : step ≤ last)
    (holds : ∀ middle, written < middle → middle < step →
      entry.WindowHolds (inputs written).moment (inputs middle).moment) :
    playbook.EvaluatedAt inputs entry step ↔
      ¬ entry.WindowHolds (inputs written).moment (inputs step).moment := by
  have stored := playbook.latch_while_open inputs distinct member enabled proceeds opened after
    (by omega) holds
  have valid := entry.newLatch_isValid_iff (proceeds.representable (by omega))
    (proceeds.representable within) (proceeds.notAfter after within)
  rw [← valid]
  constructor
  · intro evaluated isValid
    have held := (entry.heldBy?_eq_some_iff _ _ _).2 ⟨stored, isValid⟩
    rw [evaluated] at held
    cases held
  · intro invalid
    rw [EvaluatedAt, Option.eq_none_iff_forall_ne_some]
    intro latch held
    rcases (entry.heldBy?_eq_some_iff _ _ _).1 held with ⟨found, isValid⟩
    rw [stored] at found
    exact invalid (Option.some.inj found ▸ isValid)

theorem satisfiedAt_iff {last : Nat} (proceeds : Proceeds inputs last) {step : Nat}
    (within : step ≤ last) :
    entry.id ∈ (playbook.outcomeAt inputs step).satisfied ↔
      TrueAt inputs entry step ∨
        ∃ written < step, playbook.OpensWindow inputs entry written ∧
          entry.WindowHolds (inputs written).moment (inputs step).moment := by
  have counted := playbook.mem_evaluate_satisfied (inputs step).snapshot
    (playbook.latchesBefore inputs step) (inputs step).now distinct entry member enabled
  have held := playbook.heldBy?_eq_some_iff_window inputs distinct member enabled proceeds within
  rw [outcomeAt, counted, PlaybookEntry.counts, Bool.or_eq_true, Option.isSome_iff_exists, or_comm]
  apply or_congr_right
  constructor
  · rintro ⟨latch, holding⟩
    rcases (held latch).1 holding with ⟨written, earlier, opened, holds, -⟩
    exact ⟨written, earlier, opened, holds⟩
  · rintro ⟨written, earlier, opened, holds⟩
    exact ⟨_, (held _).2 ⟨written, earlier, opened, holds, rfl⟩⟩

end Run

/-- Over a run of any length that starts without latches, an enabled entry counts as satisfied
exactly when its condition is true or an earlier pass, which evaluated the entry and found it true,
opened a window that is still open. A pass inside the window keeps the very latch that opened it;
the first pass outside evaluates the entry again. -/
theorem satisfied_exactly_in_windows (playbook : Playbook) (inputs : Nat → PassInput) (last : Nat)
    (distinct : (playbook.entries.map PlaybookEntry.id).Nodup) (proceeds : Proceeds inputs last)
    (entry : PlaybookEntry) (member : entry ∈ playbook.entries) (enabled : entry.enabled = true) :
    (∀ step ≤ last,
      (entry.id ∈ (playbook.outcomeAt inputs step).satisfied ↔
        TrueAt inputs entry step ∨
          ∃ written < step, playbook.OpensWindow inputs entry written ∧
            entry.WindowHolds (inputs written).moment (inputs step).moment)) ∧
    (∀ written step, playbook.OpensWindow inputs entry written → written ≤ step → step ≤ last →
      (written = step ∨ entry.WindowHolds (inputs written).moment (inputs step).moment) →
      (playbook.outcomeAt inputs step).latches.get? entry.id =
        some (entry.newLatch (inputs written).moment)) ∧
    (∀ written step, playbook.OpensWindow inputs entry written → written < step → step ≤ last →
      (∀ middle, written < middle → middle < step →
        entry.WindowHolds (inputs written).moment (inputs middle).moment) →
      (playbook.EvaluatedAt inputs entry step ↔
        ¬ entry.WindowHolds (inputs written).moment (inputs step).moment)) := by
  refine ⟨?_, ?_, ?_⟩
  · intro step within
    exact playbook.satisfiedAt_iff inputs distinct member enabled proceeds within
  · intro written step opened order within inside
    apply playbook.latch_while_open inputs distinct member enabled proceeds opened
      (Nat.lt_succ_of_le order) (Nat.succ_le_succ within)
    intro middle after before
    rcases inside with same | holds
    · omega
    · by_cases here : middle = step
      · exact here ▸ holds
      · exact proceeds.window_open_between within holds (by omega)
  · intro written step opened after within holds
    exact playbook.evaluatedAt_iff_window_closed inputs distinct member enabled proceeds opened
      after within holds

/-! A price that dips below ten on the first bar only, watched by an entry that is valid for two
bars. -/

def dipEntry : PlaybookEntry :=
  { id := "dip", priority := 0, enabled := true, connector := .all, validity := 2,
    validityUnit := .bars
    condition :=
      { subject := .price .close, operator := .less, comparand := .literal 10, timeframe := .same
        percentage := none } }

def dipPlaybook : Playbook := { entries := [dipEntry], gate := .all }

def dipInputs (step : Nat) : PassInput :=
  let close : Float := if step = 0 then 5 else 20
  { snapshot := .ofFrame "X"
      { timeframe := .hour
        candles := [⟨3600 * step, close, close, close, close, 1⟩] }
    now := ⟨3600 * step + 60, 0⟩ }

theorem dipInputs_proceeds : Proceeds dipInputs 3 where
  opens
    | 0, _ => ⟨⟨0, 0⟩, by decide⟩
    | 1, _ => ⟨⟨3600, 0⟩, by decide⟩
    | 2, _ => ⟨⟨7200, 0⟩, by decide⟩
    | 3, _ => ⟨⟨10800, 0⟩, by decide⟩
  forward := by decide

theorem dip_counts_for_two_bars :
    (dipPlaybook.entries.map PlaybookEntry.id).Nodup ∧ Proceeds dipInputs 3 ∧
      dipEntry ∈ dipPlaybook.entries ∧ dipEntry.enabled = true ∧
      "dip" ∈ (dipPlaybook.outcomeAt dipInputs 2).satisfied ∧
      (dipPlaybook.outcomeAt dipInputs 2).latches.get? "dip" = some (.bars 0 2) ∧
      dipPlaybook.EvaluatedAt dipInputs dipEntry 3 := by
  have distinct : (dipPlaybook.entries.map PlaybookEntry.id).Nodup := by decide
  have member : dipEntry ∈ dipPlaybook.entries := List.mem_singleton.2 rfl
  have opened : dipPlaybook.OpensWindow dipInputs dipEntry 0 := ⟨rfl, by decide, by decide⟩
  have inside (step : Nat) (within : step = 1 ∨ step = 2) :
      dipEntry.WindowHolds (dipInputs 0).moment (dipInputs step).moment := by
    rcases within with rfl | rfl <;> decide
  rcases satisfied_exactly_in_windows dipPlaybook dipInputs 3 distinct dipInputs_proceeds dipEntry
    member rfl with
    ⟨satisfied, stored, evaluated⟩
  refine ⟨distinct, dipInputs_proceeds, member, rfl, ?_, ?_, ?_⟩
  · exact (satisfied 2 (by decide)).2 (.inr ⟨0, by decide, opened, inside 2 (.inr rfl)⟩)
  · exact stored 0 2 opened (by decide) (by decide) (.inr (inside 2 (.inr rfl)))
  · refine (evaluated 0 3 opened (by decide) (by decide) ?_).2 (by decide)
    intro middle after before
    exact inside middle (by omega)

end Playbook

end CandleAlerts
