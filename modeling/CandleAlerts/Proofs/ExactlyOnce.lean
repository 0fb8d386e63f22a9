import CandleAlerts.Proofs.PassCrashes
import CandleAlerts.Proofs.RunInvariant
import CandleAlerts.Proofs.Runs
import Mathlib.Data.List.Dedup
import Mathlib.Data.List.Perm.Subperm

/-!
Every bar on which an alert is found triggered is told of exactly once, unless it fires while the
evaluation of its group crashes.

The id of its event is recorded once, however often it is found and whatever the cells of the alert
remember: a second dispatch finds the event claimed. It is recorded at all, for an errand that was
handed over is never stranded. But what fires while a group crashes is remembered by its cell and
handed to nobody, so that it may never be told of.
-/

namespace CandleAlerts.Simulation

namespace State

/-- Whether nothing has been registered, claimed, recorded or told yet, and claims and records
work. -/
structure Fresh (setting : Setting) (state : State) : Prop where
  registry : state.services.registry = {}
  claims : state.services.claims = {}
  claimsWork : state.services.works .claim = true
  recordsWork : state.services.works .recordTrigger = true
  triggers : state.services.store.triggers = []
  deliveries : state.services.store.deliveries = []
  published : state.services.published = []
  tick : state.tick = none
  agenda : state.agenda = []
  waiting : state.waiting = []
  jobs : state.jobs = []
  calls : state.calls = []
  found : state.found = []
  lost : state.lost = []
  slots : state.slots = setting.scheduler.slots

/-- Nothing ended before a run. -/
def noPast : Past where
  ended _ := False
  told _ := ⟨[], []⟩

theorem Fresh.sound {setting : Setting} {state : State} (fresh : state.Fresh setting) :
    Sound (fun _ => "") noPast setting.scheduler.slots [] state := by
  have noIds : state.services.recordedIds = [] := by
    simp only [Services.recordedIds]
    rw [fresh.triggers]
    rfl
  have noErrands : state.pending = [] := by
    simp only [pending]
    rw [fresh.agenda, fresh.waiting]
    rfl
  refine ⟨⟨?_, ?_, ?_⟩, ?_⟩
  · rw [fresh.registry, fresh.found, fresh.lost]
    refine ⟨?_, ?_, ?_, ?_⟩
    · intro id entry get
      cases get
    · intro id entry get
      cases get
    · rintro member ⟨tick, under, -⟩
      rw [fresh.tick] at under
      cases under
    · intro place time fired
      cases fired
  · rw [fresh.jobs, fresh.calls]
    refine ⟨⟨fresh.claimsWork, fresh.recordsWork, ?_, ?_, ?_⟩, ?_, ?_, ?_, ?_, ?_⟩
    · rw [noIds]
      exact List.nodup_nil
    · intro eventId
      rw [noIds, fresh.claims, Claims.holds_iff]
      constructor
      · rintro ⟨expiry, get, -⟩
        cases get
      · intro member
        cases member
    · rw [fresh.published]
      exact List.nil_sublist _
    · intro job member
      cases member
    · exact List.nodup_nil
    · intro call member
      cases member
    · intro audit member
      rw [fresh.deliveries] at member
      cases member
    · intro eventId ended
      cases ended
  · rw [fresh.triggers, fresh.found, fresh.lost, noErrands]
    refine ⟨?_, ?_, ?_⟩
    · intro event member
      cases member
    · intro event member
      cases member
    · intro pair member
      cases member
  · refine ⟨?_, ?_, ?_, ?_⟩
    · rw [noErrands, fresh.jobs]
      refine ⟨List.nodup_nil, ?_, ?_⟩
      · intro errand member
        cases member
      · intro errand member
        cases member
    · intro waits
      exact absurd fresh.waiting waits
    · rw [fresh.agenda, fresh.jobs, fresh.slots]
      rfl
    · intro job member
      rw [fresh.jobs] at member
      cases member

theorem Happens.sound {setting : Setting} {owner : Nat → String} {past : Past} {slots : Nat}
    {state after : State} (sound : Sound owner past slots [] state)
    (happens : Happens setting state after) : ∃ owner, Sound owner past slots [] after := by
  cases happens with
  | performed agenda => exact ⟨owner, sound.perform setting agenda (Nat.le_max_right _ _)⟩
  | ticked now => exact ⟨owner, sound.beginTick setting now⟩
  | activated alert => exact sound.activate alert
  | deactivated id => exact ⟨owner, sound.deactivate id⟩
  | elsewhere calm => exact ⟨owner, sound.calm calm⟩

theorem Reaches.sound {setting : Setting} {owner : Nat → String} {past : Past} {slots : Nat}
    {start state : State} (sound : Sound owner past slots [] start)
    (run : Reaches setting start state) : ∃ owner, Sound owner past slots [] state := by
  induction run with
  | refl => exact ⟨owner, sound⟩
  | tail _ happens induction =>
      rcases induction with ⟨owner, reached⟩
      exact happens.sound reached

end State

/-! ## What a run comes to -/

/-- Whether a task has to do with a dispatch. -/
def Task.isDispatch : Task → Bool
  | .errandReady _ | .errandAdmitted _ | .deliveryDue _ _ => true
  | .groupReady _ _ | .groupAdmitted _ _ | .groupFetched _ _ | .groupErrandDone _ _
  | .groupBudgetSpent _ _ | .tickDue | .schedulerStops => false

namespace State

/-- Whether no dispatch is to come up. -/
def AtRest (state : State) : Prop := ∀ entry ∈ state.agenda, entry.2.isDispatch = false

instance (state : State) : Decidable state.AtRest :=
  inferInstanceAs (Decidable (∀ entry ∈ state.agenda, entry.2.isDispatch = false))

/-- The ids of the events that tell of what was found, each once. -/
def foundIds (state : State) : List String :=
  state.found.dedup.map (fun pair => eventIdOf pair.1 pair.2)

def Ended (state : State) (eventId : String) : Prop :=
  eventId ∈ state.services.recordedIds ∧ ∀ job ∈ state.jobs, job.eventId ≠ eventId

theorem nodup_foundIds (state : State) : state.foundIds.Nodup := by
  refine List.Nodup.map ?_ (List.nodup_dedup state.found)
  intro first second same
  rcases eventIdOf_inj.1 same with ⟨ids, times⟩
  exact Prod.ext ids times

theorem mem_foundIds (state : State) (eventId : String) :
    eventId ∈ state.foundIds ↔ ∃ pair ∈ state.found, eventIdOf pair.1 pair.2 = eventId := by
  simp only [foundIds]
  simp only [List.mem_map, List.mem_dedup]

/-- When no dispatch is to come up, no errand is pending: one that waited would wait for a dispatch
that goes on. -/
theorem Scheduled.pending_eq_nil {slots : Nat} {state : State}
    (scheduled : Scheduled slots 0 [] state)
    (some : 0 < slots) (rest : state.AtRest) : state.pending = [] := by
  have noErrands : state.agenda.filterMap (fun entry => entry.2.errand?) = [] := by
    rw [List.filterMap_eq_nil_iff]
    rintro ⟨due, task⟩ member
    have other := rest _ member
    cases task with
    | errandReady errand => cases other
    | errandAdmitted errand => cases other
    | _ => rfl
  have noSlots : state.agenda.countP (fun entry => entry.2.hasSlot) = 0 := by
    rw [List.countP_eq_zero]
    rintro ⟨due, task⟩ member
    have other := rest _ member
    cases task with
    | errandAdmitted errand => cases other
    | _ => exact Bool.false_ne_true
  have noJobs : state.jobs = [] := by
    rw [List.eq_nil_iff_forall_not_mem]
    intro job member
    have planned := scheduled.planned job member
    rcases planned.goesOn with ⟨delivery, listed, goesOn⟩
    rcases Option.isSome_iff_exists.1 goesOn with ⟨due, isDue⟩
    rcases List.mem_iff_getElem?.1 listed with ⟨place, get⟩
    cases rest _ (planned.listed place delivery due get isDue)
  have nobody : state.waiting = [] := by
    by_contra waits
    have total := scheduled.total
    rw [scheduled.full waits, noSlots, noJobs, List.length_nil] at total
    omega
  simp only [pending]
  rw [noErrands, nobody, List.append_nil]

/-- What is true of a state in which each finding that is not lost is told of exactly once. -/
structure TellsOnce (setting : Setting) (state : State) : Prop where
  /-- No event is recorded twice, and none but of what was found. -/
  recorded : state.services.recordedIds.Subperm state.foundIds
  /-- Each recorded event names the alert that was found triggered and the bar. -/
  told : ∀ event ∈ state.services.store.triggers, ∃ pair ∈ state.found, event.Tells pair
  /-- Whatever was found is recorded, or its errand is still to be run, or it fired in a group that
  crashed. -/
  pending : ∀ pair ∈ state.found, eventIdOf pair.1 pair.2 ∈ state.services.recordedIds ∨
    (∃ errand ∈ state.pending, errand.event.Tells pair) ∨ pair ∈ state.lost
  /-- Once no dispatch is to come up, whatever was found and not lost is recorded. -/
  settled : state.AtRest → ∀ pair ∈ state.found, pair ∉ state.lost →
    eventIdOf pair.1 pair.2 ∈ state.services.recordedIds
  /-- If nothing of it was lost, the recorded ids then are those of what was found, each exactly
  once. -/
  complete : state.AtRest → (∀ pair ∈ state.found, pair ∉ state.lost) →
    state.services.recordedIds.Perm state.foundIds
  /-- Recorded events are published in the order in which they were recorded, none twice. -/
  published : state.services.published.Sublist
    (state.services.store.triggers.map TriggerEvent.toMessage)
  /-- Webhooks are called for recorded events only, and deliveries of recorded events only are
  audited. -/
  delivered : (∀ call ∈ state.calls, call.eventId ∈ state.services.recordedIds) ∧
    ∀ audit ∈ state.services.store.deliveries, audit.eventId ∈ state.services.recordedIds
  /-- An event has at most one dispatch under way. -/
  dispatched : (state.jobs.map Job.eventId).Nodup
  /-- An event whose dispatch has ended is never dispatched again, and nothing more is told of
  it. -/
  ended : ∀ eventId, state.Ended eventId → ∀ later, Reaches setting state later →
    later.Ended eventId ∧
      tellings later.calls later.services eventId = tellings state.calls state.services eventId

/-- The events that ended by now, and what was told of them. -/
def past (state : State) : Past where
  ended := state.Ended
  told := tellings state.calls state.services

theorem Sound.with_past {owner : Nat → String} {past : Past} {slots : Nat} {state : State}
    (sound : Sound owner past slots [] state) : Sound owner state.past slots [] state := by
  have books := sound.accounts.books
  refine ⟨⟨sound.accounts.cells, ?_, sound.accounts.findings⟩, sound.schedule⟩
  exact
    { records := books.records
      begun := books.begun
      apart := books.apart
      called := books.called
      audited := books.audited
      closed := fun eventId ended => ⟨ended.1, ended.2, rfl⟩ }

theorem Sound.tellsOnce {owner : Nat → String} {past : Past} {slots : Nat} {state : State}
    (sound : Sound owner past slots [] state) (some : 0 < slots) (setting : Setting) :
    state.TellsOnce setting := by
  have books := sound.accounts.books
  have findings := sound.accounts.findings
  have subset : ∀ eventId ∈ state.services.recordedIds, eventId ∈ state.foundIds := by
    intro eventId member
    rcases List.mem_map.1 member with ⟨event, listed, rfl⟩
    rcases findings.recorded event listed with ⟨pair, isFound, tells⟩
    exact (state.mem_foundIds _).2 ⟨pair, isFound, tells.eventId.symm⟩
  have covered (pair : String × Int) (isFound : pair ∈ state.found) :
      eventIdOf pair.1 pair.2 ∈ state.services.recordedIds ∨
        (∃ errand ∈ state.pending, errand.event.Tells pair) ∨ pair ∈ state.lost := by
    rcases findings.covered pair isFound with recorded | ⟨event, listed, tells⟩ | isLost
    · exact .inl recorded
    · rw [List.append_nil] at listed
      rcases List.mem_map.1 listed with ⟨errand, member, rfl⟩
      exact .inr (.inl ⟨errand, member, tells⟩)
    · exact .inr (.inr isLost)
  have settled (rest : state.AtRest) (pair : String × Int) (isFound : pair ∈ state.found)
      (kept : pair ∉ state.lost) : eventIdOf pair.1 pair.2 ∈ state.services.recordedIds := by
    rcases covered pair isFound with recorded | ⟨errand, isPending, -⟩ | isLost
    · exact recorded
    · rw [sound.schedule.pending_eq_nil some rest] at isPending
      cases isPending
    · exact absurd isLost kept
  refine ⟨List.Nodup.subperm books.records.distinct subset, findings.recorded, covered, settled, ?_,
    books.records.published, ⟨books.called, books.audited⟩, books.apart, ?_⟩
  · intro rest kept
    rw [List.perm_ext_iff_of_nodup books.records.distinct state.nodup_foundIds]
    intro eventId
    constructor
    · exact subset eventId
    · intro member
      rcases (state.mem_foundIds eventId).1 member with ⟨pair, isFound, rfl⟩
      exact settled rest pair isFound (kept pair isFound)
  · intro eventId ended later run
    rcases run.sound sound.with_past with ⟨next, after⟩
    rcases after.accounts.books.closed eventId ended with ⟨recorded, idle, same⟩
    exact ⟨⟨recorded, idle⟩, same⟩

/-- Along every run each alert and bar that were found triggered together are told of exactly once,
unless the alert fired on that bar while the evaluation of its group crashed. Nothing else is. -/
theorem findings_told_exactly_once {setting : Setting} {start state : State}
    (fresh : start.Fresh setting) (run : Reaches setting start state) :
    state.TellsOnce setting := by
  rcases run.sound fresh.sound with ⟨owner, sound⟩
  exact sound.tellsOnce (Nat.lt_of_lt_of_le Nat.zero_lt_one (Nat.le_max_right _ _)) setting

/-! A price above one hundred on a bar, then on the next, and then on the first bar once more, after
the alert was deactivated and activated anew. -/

def breakoutAlert : Alert :=
  { id := "breakout", ownerId := "owner", symbol := "BTC", timeframe := .hour
    logic := .conditions
      [{ subject := .price .close, operator := .greater, comparand := .literal 100,
         timeframe := .same,
         percentage := none }] .all
    fireMode := .perBar, action := .nothing }

def breakoutSetting : Setting :=
  { scheduler :=
      { interval := 60000, timeframes := [.hour], groupTimeout := 5000, maxConcurrentGroups := 1
        candleLimit := 300, maxDispatches := 1 }
    policy := { maxRetries := 0, backoffBase := 1000, timeout := 10000 }
    defaultSecret := "secret"
    mac := fun _ _ => []
    calendar := ⟨1700000000, 0⟩
    api :=
      { defaultFireMode := .perBar, timeframes := [.hour], verifier := none, hasMetrics := false
        mac := fun _ _ => [], subscriptionId := fun _ => "" } }

def breakoutBar (time : Int) : Reply MarketAnswer :=
  { answer := .candles [⟨time, 104, 106, 103, 105, 1⟩] }

/-- A start with a market that shows the price on bars at some times, one after the other. -/
def marketStart (times : List Int) : State :=
  { State.beginning breakoutSetting { channel := { capacity := 1 } } (fun _ _ => none) with
    market := Table.empty.insert "BTC" (times.map breakoutBar) }

def breakoutStart : State := marketStart [3600, 7200, 3600]

def activateAlert (alert : Alert) (state : State) : State :=
  { state with services := { state.services with
      registry := (state.services.registry.activate alert none).2 } }

def deactivateAlert (id : String) (state : State) : State :=
  { state with services := { state.services with
      registry := (state.services.registry.deactivate id).2 } }

def tickBreakout (state : State) : State := (state.tickOnce breakoutSetting 20 ⟨0, 0⟩).2

def breakoutEnd : State :=
  tickBreakout (activateAlert breakoutAlert (deactivateAlert "breakout" (tickBreakout (tickBreakout
    (activateAlert breakoutAlert breakoutStart)))))

theorem reaches_breakoutEnd : Reaches breakoutSetting breakoutStart breakoutEnd := by
  have first : Reaches breakoutSetting breakoutStart
      (tickBreakout (tickBreakout (activateAlert breakoutAlert breakoutStart))) :=
    (Relation.ReflTransGen.single (.activated breakoutStart breakoutAlert)).trans
      ((Reaches.tickOnce 20 ⟨0, 0⟩ _).trans (Reaches.tickOnce 20 ⟨0, 0⟩ _))
  have again : Reaches breakoutSetting breakoutStart
      (activateAlert breakoutAlert (deactivateAlert "breakout" (tickBreakout (tickBreakout
        (activateAlert breakoutAlert breakoutStart))))) :=
    (first.tail (.deactivated _ "breakout")).tail (.activated _ breakoutAlert)
  exact again.trans (Reaches.tickOnce 20 ⟨0, 0⟩ _)

theorem breakout_told_once_for_each_bar :
    breakoutStart.Fresh breakoutSetting ∧ Reaches breakoutSetting breakoutStart breakoutEnd ∧
      breakoutEnd.AtRest ∧
      breakoutEnd.found = [("breakout", 3600), ("breakout", 7200), ("breakout", 3600)] ∧
      breakoutEnd.services.recordedIds.Perm ["breakout:7200", "breakout:3600"] := by
  have fresh : breakoutStart.Fresh breakoutSetting :=
    ⟨rfl, rfl, rfl, rfl, rfl, rfl, rfl, rfl, rfl, rfl, rfl, rfl, rfl, rfl, rfl⟩
  have rest : breakoutEnd.AtRest := by decide +kernel
  have once := findings_told_exactly_once fresh reaches_breakoutEnd
  have ids : breakoutEnd.foundIds = ["breakout:7200", "breakout:3600"] := by decide +kernel
  refine ⟨fresh, reaches_breakoutEnd, rest, by decide +kernel, ?_⟩
  have complete := once.complete rest (by decide +kernel)
  rw [ids] at complete
  exact complete

/-! The same price on a bar after which the calendar has less than an hour left, and a second alert
on it that is to be latched for an hour. The evaluation of the second crashes; the first fires and
is remembered, but its event is lost. -/

def overrunStart : State := marketStart [Candle.lastHour.time, Candle.lastHour.time]

def overrunEnd : State :=
  tickBreakout (deactivateAlert "overrun" (tickBreakout
    (activateAlert (.latchedHour "overrun" "BTC") (activateAlert breakoutAlert overrunStart))))

theorem reaches_overrunEnd : Reaches breakoutSetting overrunStart overrunEnd := by
  have both : Reaches breakoutSetting overrunStart
      (activateAlert (.latchedHour "overrun" "BTC") (activateAlert breakoutAlert overrunStart)) :=
    (Relation.ReflTransGen.single (.activated overrunStart breakoutAlert)).tail
      (.activated _ _)
  have first := both.trans (Reaches.tickOnce 20 ⟨0, 0⟩ _)
  exact (first.tail (.deactivated _ "overrun")).trans (Reaches.tickOnce 20 ⟨0, 0⟩ _)

/-- Not everything that a run finds in a group that does not fail is told of. -/
theorem lost_breakout_is_never_told :
    overrunStart.Fresh breakoutSetting ∧ Reaches breakoutSetting overrunStart overrunEnd ∧
      overrunEnd.AtRest ∧ overrunEnd.pending = [] ∧
      overrunEnd.found = [("breakout", 8210266873200)] ∧
      overrunEnd.lost = [("breakout", 8210266873200)] ∧
      overrunEnd.services.recordedIds = [] := by
  refine ⟨⟨rfl, rfl, rfl, rfl, rfl, rfl, rfl, rfl, rfl, rfl, rfl, rfl, rfl, rfl, rfl⟩,
    reaches_overrunEnd, by decide +kernel, ?_, by decide +kernel, by decide +kernel,
    by decide +kernel⟩
  have nothing : overrunEnd.pending.length = 0 := by decide +kernel
  exact List.eq_nil_of_length_eq_zero nothing

end State

end CandleAlerts.Simulation
