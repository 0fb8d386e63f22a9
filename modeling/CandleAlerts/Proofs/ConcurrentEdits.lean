import CandleAlerts.Proofs.EventIds
import CandleAlerts.Proofs.GroupEvaluation
import CandleAlerts.Proofs.RegistryRevisions
import CandleAlerts.Proofs.StepRuns
import Mathlib.Data.List.Chain

/-!
Evaluations of alerts while the registry is changed.

A tick takes two kinds of steps: it is handed out the registered alerts with their cells, and then
evaluates each of them on the cell it was handed. In between the registry may be changed. An edit
gives the alert another cell and copies the state as it is at that moment, so what an alert that was
handed out before fires afterwards goes to a cell that nobody reads again.
-/

namespace CandleAlerts

/-! ## The steps -/

/-- The registry and the alerts that ticks are evaluating. -/
structure SharedAlerts where
  registry : Registry := {}
  /-- The alerts that were handed out and are still to be evaluated. -/
  handed : List Registered := []

/-- Whether an alert's cell is the one it is registered with. -/
def Registry.holds (registry : Registry) (entry : Registered) : Bool :=
  (registry.get? entry.alert.id).map Registered.cell == some entry.cell

/-- One step. An evaluation tells what it emitted and whether it went by the registered cell; a
change tells which of the alerts that were handed out it took the cell of. -/
inductive AlertEvent where
  | handedOut
  | evaluated (entry : Registered) (emitted : Option TriggerEvent) (current : Bool)
  | changed (overtaken : List Registered)

namespace AlertEvent

def emitted? : AlertEvent → Option TriggerEvent
  | evaluated _ emitted _ => emitted
  | handedOut | changed _ => none

/-- What was emitted for an alert by its registered cell. -/
def included? (id : String) : AlertEvent → Option TriggerEvent
  | evaluated entry emitted current => if current && entry.alert.id == id then emitted else none
  | handedOut | changed _ => none

end AlertEvent

/-- The events emitted for an alert by the cells that were registered for it at the time. -/
def includedEvents (id : String) (events : List AlertEvent) : List TriggerEvent :=
  events.filterMap (AlertEvent.included? id)

/-- The changes of the registry. -/
inductive Registry.Change (registry : Registry) : Registry → Prop
  | activated (alert : Alert) (initial : Option AlertRuntime) :
      Change registry (registry.activate alert initial).2
  | deactivated (id : String) : Change registry (registry.deactivate id).2
  | reconciled (stored : Registry.StoredAlerts) (since : Nat) :
      Change registry (registry.reconcile stored since).2

namespace SharedAlerts

/-- The alerts that were handed out and whose cells a change takes out of the registry. -/
def overtaken (state : SharedAlerts) (after : Registry) : List Registered :=
  state.handed.filter (fun entry => state.registry.holds entry && !after.holds entry)

/-- The steps. An alert is evaluated on any snapshot and bar, at any time. -/
inductive Step : SharedAlerts → AlertEvent → SharedAlerts → Prop
  | handedOut (state : SharedAlerts) :
      Step state .handedOut
        { state with handed := state.handed ++ state.registry.groups.flatMap Group.members }
  | evaluated (state : SharedAlerts) (entry : Registered) (before after : List Registered)
      (snapshot : Snapshot) (bar : Candle) (now : Instant)
      (waits : state.handed = before ++ entry :: after) :
      Step state
        (.evaluated entry
          (entry.alert.pass snapshot bar now (state.registry.cell entry.cell)).event
          (state.registry.holds entry))
        { registry := state.registry.setCell entry.cell
            (entry.alert.pass snapshot bar now (state.registry.cell entry.cell)).runtime
          handed := before ++ after }
  | changed (state : SharedAlerts) (after : Registry) (change : state.registry.Change after) :
      Step state (.changed (state.overtaken after)) { state with registry := after }

abbrev Run := StepRun Step

end SharedAlerts

/-- The evaluation of a group takes one step for each member. -/
theorem MembersPass.foldl_visit_run (snapshot : Snapshot) (bar : Candle) (now : Instant)
    (members rest : List Registered) (sofar : MembersPass) :
    ∃ events, SharedAlerts.Run { registry := sofar.registry, handed := members ++ rest } events
      { registry := (members.foldl (MembersPass.visit snapshot bar now) sofar).registry
        handed := rest } ∧
      (members.foldl (MembersPass.visit snapshot bar now) sofar).fired.map Fired.event =
        sofar.fired.map Fired.event ++ events.filterMap AlertEvent.emitted? := by
  induction members generalizing sofar with
  | nil => exact ⟨[], .nil, by simp⟩
  | cons member others induction =>
      rcases induction (sofar.visit snapshot bar now member) with ⟨events, run, fired⟩
      have first : SharedAlerts.Run
          { registry := sofar.registry, handed := member :: (others ++ rest) } _ _ :=
        .single (.evaluated _ member [] (others ++ rest) snapshot bar now rfl)
      refine ⟨_, first.trans run, ?_⟩
      rw [List.foldl_cons, fired, List.filterMap_append]
      simp only [MembersPass.visit]
      cases (member.alert.pass snapshot bar now (sofar.registry.cell member.cell)).event with
      | none => simp [AlertEvent.emitted?]
      | some event => simp [AlertEvent.emitted?]

theorem Registry.passGroup_run {registry : Registry} {engine : IndicatorEngine} {group : Group}
    {fetched : Except MissingData (List Candle)} {now : Instant} {reached : Registered → Bool}
    {fired : List Fired}
    (done : (registry.passGroup engine group fetched now reached).result = .ok fired)
    (rest : List Registered) :
    ∃ events, SharedAlerts.Run { registry, handed := group.members ++ rest } events
      { registry := (registry.passGroup engine group fetched now reached).registry
        handed := rest } ∧
      fired.map Fired.event = events.filterMap AlertEvent.emitted? := by
  obtain ⟨snapshot, bar, -, -, after, rfl⟩ := exists_view_of_ok done
  rw [after]
  exact MembersPass.foldl_visit_run snapshot bar now group.members rest { registry }

/-- An alert that is evaluated fires and remembers that it did, or it does not and remembers what it
did before. -/
theorem Alert.pass_firing (alert : Alert) (snapshot : Snapshot) (bar : Candle) (now : Instant)
    (runtime : AlertRuntime) :
    ((alert.pass snapshot bar now runtime).event = none ∧
      (alert.pass snapshot bar now runtime).runtime.triggerCount = runtime.triggerCount ∧
      (alert.pass snapshot bar now runtime).runtime.lastFiredAt = runtime.lastFiredAt) ∨
    ∃ event, (alert.pass snapshot bar now runtime).event = some event ∧
      event.Tells (alert.id, bar.time) ∧ runtime.lastFiredAt ≠ some bar.time ∧
      (alert.pass snapshot bar now runtime).runtime.triggerCount = runtime.triggerCount + 1 ∧
      (alert.pass snapshot bar now runtime).runtime.lastFiredAt = some bar.time := by
  have tracked (evaluated : AlertRuntime) (outcome : LogicOutcome) :
      (evaluated.trackMissing outcome).2.triggerCount = evaluated.triggerCount := by
    simp only [AlertRuntime.trackMissing]
    split <;> rfl
  have remembered := AlertRuntime.trackMissing_lastFiredAt
    { runtime with
      latches := (alert.evaluate snapshot runtime.latches now).latches
      lastEvaluatedAt := some now }
    (alert.evaluate snapshot runtime.latches now)
  have counted := tracked
    { runtime with
      latches := (alert.evaluate snapshot runtime.latches now).latches
      lastEvaluatedAt := some now }
    (alert.evaluate snapshot runtime.latches now)
  simp only [pass]
  dsimp only at remembered counted ⊢
  split
  · exact .inl ⟨rfl, counted, remembered⟩
  · split
    · rename_i fires
      refine .inr ⟨_, rfl, ⟨rfl, rfl, rfl⟩, ?_, ?_, rfl⟩
      · intro before
        rw [(AlertRuntime.mayFire_eq_false_iff _ _).2 (remembered.trans before)] at fires
        cases fires
      · simp only [AlertRuntime.recordFired]
        rw [counted]
    · exact .inl ⟨rfl, counted, remembered⟩

theorem Registry.Change.wellFormed {before after : Registry}
    (change : before.Change after) (wellFormed : before.WellFormed) : after.WellFormed := by
  cases change with
  | activated alert initial => exact wellFormed.activate alert initial
  | deactivated id => exact wellFormed.deactivate id
  | reconciled stored since => exact before.reconcile_wellFormed stored since wellFormed

theorem Registry.Change.revises {before after : Registry}
    (change : before.Change after) (wellFormed : before.WellFormed) : before.Revises after := by
  cases change with
  | activated alert initial => exact .activate wellFormed alert initial
  | deactivated id => exact .deactivate before id
  | reconciled stored since => exact .reconcile wellFormed stored since

namespace SharedAlerts

/-! ## Cells and those they belong to -/

/-- The registry is well formed, no two registered alerts share a cell, and no alert that was handed
out has the registered cell of another. -/
structure Sound (state : SharedAlerts) : Prop where
  wellFormed : state.registry.WellFormed
  apart : state.registry.Apart
  within : ∀ entry ∈ state.handed, entry.cell < state.registry.cells.size
  own : ∀ entry ∈ state.handed, ∀ id registered, state.registry.get? id = some registered →
    registered.cell = entry.cell → entry.alert.id = id

theorem Sound.empty : Sound {} where
  wellFormed := Registry.WellFormed.empty
  apart _ _ _ _ found := by cases found
  within _ member := by cases member
  own _ member := by cases member

variable {state next : SharedAlerts} {event : AlertEvent}

/-- What is handed out is registered. -/
theorem Sound.get?_of_mem_groups (sound : state.Sound) {entry : Registered}
    (member : entry ∈ state.registry.groups.flatMap Group.members) :
    state.registry.get? entry.alert.id = some entry := by
  rcases List.mem_flatMap.1 member with ⟨group, listed, isMember⟩
  rcases Registry.get?_of_mem_groups listed isMember with ⟨id, found⟩
  rw [sound.wellFormed.ids id entry found]
  exact found

theorem Step.sound (step : Step state event next) (sound : state.Sound) : next.Sound := by
  cases step with
  | handedOut =>
      refine ⟨sound.wellFormed, sound.apart, ?_, ?_⟩
      · intro entry member
        rcases List.mem_append.1 member with earlier | new
        · exact sound.within entry earlier
        · exact sound.wellFormed.cells _ _ (sound.get?_of_mem_groups new)
      · intro entry member id registered found same
        rcases List.mem_append.1 member with earlier | new
        · exact sound.own entry earlier id registered found same
        · exact sound.apart _ _ _ _ (sound.get?_of_mem_groups new) found same.symm
  | evaluated entry before after snapshot bar now waits =>
      refine ⟨sound.wellFormed.setCell _ _, sound.apart, ?_, ?_⟩
      · intro other member
        rw [Registry.size_setCell]
        exact sound.within other (mem_of_mem_rest waits member)
      · intro other member
        exact sound.own other (mem_of_mem_rest waits member)
  | changed after change =>
      have revises := change.revises sound.wellFormed
      refine ⟨change.wellFormed sound.wellFormed, revises.apart sound.apart, ?_, ?_⟩
      · intro entry member
        exact Nat.lt_of_lt_of_le (sound.within entry member) revises.grows
      · intro entry member id registered found same
        rcases revises.entries id registered found with before | new
        · exact sound.own entry member id registered before same
        · have within := sound.within entry member
          omega

theorem Run.sound {start final : SharedAlerts} {events : List AlertEvent}
    (run : Run start events final) (sound : start.Sound) : final.Sound :=
  run.keeps Sound sound (fun _ _ _ _ step => step.sound)

/-! ## What the registered cell remembers -/

/-- The bars an alert fired on, the last one before included. -/
def firedBars (initial : AlertRuntime) (included : List TriggerEvent) : List (Option Int) :=
  initial.lastFiredAt :: included.map (fun event => some event.barTime)

/-- What is known of an alert that started from some state once some events were emitted by its
registered cells: it remembers how many there were and the bar of the last, each has the id of its
bar, and no two in a row have the same bar. -/
structure Tallied (id : String) (initial : AlertRuntime) (included : List TriggerEvent)
    (registry : Registry) : Prop where
  remembers : ∃ last, registry.firing? id =
      some (initial.triggerCount + UInt64.ofNat included.length, last) ∧
    (firedBars initial included).getLast? = some last
  ids : ∀ event ∈ included, event.eventId = eventIdOf id event.barTime
  distinct : (firedBars initial included).IsChain (· ≠ ·)

theorem Tallied.start {id : String} {initial : AlertRuntime} {registry : Registry}
    (registered : registry.runtime? id = some initial) : Tallied id initial [] registry where
  remembers := by
    refine ⟨initial.lastFiredAt, ?_, rfl⟩
    simp only [Registry.firing?]
    rw [registered]
    simp
  ids event member := by cases member
  distinct := .singleton _

theorem Tallied.isRegistered {id : String} {initial : AlertRuntime} {included : List TriggerEvent}
    {registry : Registry} (tallied : Tallied id initial included registry) :
    ∃ entry, registry.get? id = some entry := by
  rcases tallied.remembers with ⟨last, firing, -⟩
  cases found : registry.get? id with
  | none => simp [Registry.firing?, Registry.runtime?, found] at firing
  | some entry => exact ⟨entry, rfl⟩

/-- One more event is one more to remember. -/
theorem Tallied.snoc {id : String} {initial : AlertRuntime} {included : List TriggerEvent}
    {before after : Registry} (tallied : Tallied id initial included before)
    {event : TriggerEvent} (named : event.eventId = eventIdOf id event.barTime)
    (fires : ∀ count last, before.firing? id = some (count, last) →
      last ≠ some event.barTime ∧ after.firing? id = some (count + 1, some event.barTime)) :
    Tallied id initial (included ++ [event]) after := by
  rcases tallied.remembers with ⟨last, firing, isLast⟩
  rcases fires _ last firing with ⟨new, afterwards⟩
  have bars : firedBars initial (included ++ [event]) =
      firedBars initial included ++ [some event.barTime] := by
    simp [firedBars]
  refine ⟨⟨some event.barTime, ?_, ?_⟩, ?_, ?_⟩
  · rw [afterwards, List.length_append, List.length_singleton, UInt64.ofNat_add, UInt64.add_assoc]
    rfl
  · rw [bars, List.getLast?_append]
    rfl
  · intro other member
    rcases List.mem_append.1 member with earlier | same
    · exact tallied.ids other earlier
    · rw [List.mem_singleton.1 same]
      exact named
  · rw [bars]
    refine tallied.distinct.append (.singleton _) ?_
    intro first firstLast second secondHead
    rw [isLast] at firstLast
    cases firstLast
    cases secondHead
    exact new

section Evaluated

variable {id : String} {initial : AlertRuntime} {included : List TriggerEvent}
  {registry : Registry} {entry registered : Registered}

/-- Evaluated on its registered cell, an alert is remembered to have emitted what it emits. -/
theorem Tallied.evaluated_own (tallied : Tallied id initial included registry)
    (found : registry.get? id = some registered) (same : registered.cell = entry.cell)
    (mine : entry.alert.id = id) (within : entry.cell < registry.cells.size)
    (snapshot : Snapshot) (bar : Candle) (now : Instant) :
    Tallied id initial
      (included ++
        (entry.alert.pass snapshot bar now (registry.cell entry.cell)).event.toList)
      (registry.setCell entry.cell
        (entry.alert.pass snapshot bar now (registry.cell entry.cell)).runtime) := by
  have result := entry.alert.pass_firing snapshot bar now (registry.cell entry.cell)
  generalize entry.alert.pass snapshot bar now (registry.cell entry.cell) = pass at result ⊢
  have before := Registry.firing?_of_get? found
  have after := @Registry.firing?_of_get? (registry.setCell entry.cell pass.runtime) id registered
    found
  rw [same] at before after
  rw [registry.cell_setCell_self _ within] at after
  rcases result with ⟨silent, count, last⟩ | ⟨event, emitted, tells, new, count, last⟩
  · rw [silent, Option.toList_none, List.append_nil]
    refine ⟨?_, tallied.ids, tallied.distinct⟩
    rw [after, count, last, ← before]
    exact tallied.remembers
  · rw [emitted, Option.toList_some]
    refine tallied.snoc ?_ ?_
    · rw [tells.eventId, tells.barTime, mine]
    · intro oldCount oldLast firing
      rw [before] at firing
      cases firing
      rw [after, count, last, tells.barTime]
      exact ⟨new, rfl⟩

/-- What is written to another cell than the registered one is not remembered. -/
theorem Tallied.evaluated_elsewhere (tallied : Tallied id initial included registry)
    (found : registry.get? id = some registered) (other : entry.cell ≠ registered.cell)
    (runtime : AlertRuntime) :
    Tallied id initial included (registry.setCell entry.cell runtime) := by
  have before := Registry.firing?_of_get? found
  have after := @Registry.firing?_of_get? (registry.setCell entry.cell runtime) id registered found
  rw [registry.cell_setCell_of_ne _ other, ← before] at after
  refine ⟨?_, tallied.ids, tallied.distinct⟩
  rw [after]
  exact tallied.remembers

/-- Evaluating an alert changes what is remembered of it by what its registered cell emits. -/
theorem Tallied.evaluated (tallied : Tallied id initial included registry)
    (within : entry.cell < registry.cells.size)
    (own : ∀ registered, registry.get? id = some registered → registered.cell = entry.cell →
      entry.alert.id = id)
    (snapshot : Snapshot) (bar : Candle) (now : Instant) :
    Tallied id initial
      (included ++ (AlertEvent.included? id
        (.evaluated entry
          (entry.alert.pass snapshot bar now (registry.cell entry.cell)).event
          (registry.holds entry))).toList)
      (registry.setCell entry.cell
        (entry.alert.pass snapshot bar now (registry.cell entry.cell)).runtime) := by
  rcases tallied.isRegistered with ⟨registered, found⟩
  by_cases same : registered.cell = entry.cell
  · have mine := own registered found same
    have current : registry.holds entry = true := by
      simp [Registry.holds, mine, found, same]
    simp only [AlertEvent.included?, current, mine, Bool.true_and, beq_self_eq_true, if_true]
    exact tallied.evaluated_own found same mine within snapshot bar now
  · have elsewhere : (registry.holds entry && entry.alert.id == id) = false := by
      rw [Bool.eq_false_iff]
      intro holds
      rw [Bool.and_eq_true, beq_iff_eq] at holds
      rcases holds with ⟨holds, mine⟩
      simp [Registry.holds, mine, found, same] at holds
    simp only [AlertEvent.included?, elsewhere, Bool.false_eq_true, if_false, Option.toList_none,
      List.append_nil]
    exact tallied.evaluated_elsewhere found (Ne.symm same) _

end Evaluated

theorem includedEvents_snoc (id : String) (events : List AlertEvent) (event : AlertEvent) :
    includedEvents id (events ++ [event]) =
      includedEvents id events ++ (AlertEvent.included? id event).toList := by
  simp only [includedEvents, List.filterMap_append]
  cases found : AlertEvent.included? id event with
  | none => simp [found]
  | some emitted => simp [found]

/-- A step that leaves an alert registered keeps the tally. -/
theorem Step.tallied {id : String} {initial : AlertRuntime} {events : List AlertEvent}
    (step : Step state event next) (sound : state.Sound) (stays : next.registry.IsRegistered id)
    (tallied : Tallied id initial (includedEvents id events) state.registry) :
    Tallied id initial (includedEvents id (events ++ [event])) next.registry := by
  rw [includedEvents_snoc]
  cases step with
  | handedOut =>
      simp only [AlertEvent.included?, Option.toList_none, List.append_nil]
      exact tallied
  | evaluated entry before after snapshot bar now waits =>
      have member : entry ∈ state.handed := by simp [waits]
      exact tallied.evaluated (sound.within entry member) (sound.own entry member id)
        snapshot bar now
  | changed after change =>
      simp only [AlertEvent.included?, Option.toList_none, List.append_nil]
      refine ⟨?_, tallied.ids, tallied.distinct⟩
      rcases tallied.isRegistered with ⟨entry, found⟩
      have before : state.registry.IsRegistered id := Option.isSome_iff_exists.2 ⟨entry, found⟩
      rw [(change.revises sound.wellFormed).firing id before stays]
      exact tallied.remembers

/-! ## Alerts that were overtaken -/

/-- Whether every alert that was handed out has its registered cell or was overtaken by a change. -/
def Accounted (events : List AlertEvent) (state : SharedAlerts) : Prop :=
  ∀ entry ∈ state.handed, state.registry.holds entry = true ∨
    ∃ overtaken, .changed overtaken ∈ events ∧ entry ∈ overtaken

theorem Step.accounted {events : List AlertEvent} (step : Step state event next)
    (sound : state.Sound) (accounted : Accounted events state) :
    Accounted (events ++ [event]) next := by
  have widen {entry : Registered}
      (earlier : ∃ overtaken, .changed overtaken ∈ events ∧ entry ∈ overtaken) :
      ∃ overtaken, .changed overtaken ∈ events ++ [event] ∧ entry ∈ overtaken := by
    rcases earlier with ⟨overtaken, listed, member⟩
    exact ⟨overtaken, List.mem_append_left _ listed, member⟩
  intro entry member
  cases step with
  | handedOut =>
      rcases List.mem_append.1 member with earlier | new
      · exact (accounted entry earlier).imp id widen
      · left
        simp [Registry.holds, sound.get?_of_mem_groups new]
  | evaluated evaluated before after snapshot bar now waits =>
      exact (accounted entry (mem_of_mem_rest waits member)).imp id widen
  | changed after change =>
      rcases accounted entry member with held | earlier
      · cases holds : after.holds entry with
        | true => exact .inl rfl
        | false =>
            refine .inr ⟨state.overtaken after, by simp, ?_⟩
            simp [overtaken, member, held, holds]
      · exact .inr (widen earlier)

theorem Run.accounted {start final : SharedAlerts} {events : List AlertEvent}
    (run : Run start events final) (sound : start.Sound) {earlier : List AlertEvent}
    (accounted : Accounted earlier start) : Accounted (earlier ++ events) final := by
  induction run with
  | nil =>
      rw [List.append_nil]
      exact accounted
  | snoc rest step induction =>
      rw [← List.append_assoc]
      exact step.accounted (Run.sound rest sound) induction

/-- What is not evaluated on its registered cell was overtaken before. -/
theorem Run.overtaken_of_not_current {start final : SharedAlerts} {events : List AlertEvent}
    (run : Run start events final) (sound : start.Sound) {earlier : List AlertEvent}
    (accounted : Accounted earlier start) {entry : Registered} {emitted : Option TriggerEvent}
    (listed : .evaluated entry emitted false ∈ events) :
    ∃ overtaken, .changed overtaken ∈ earlier ++ events ∧ entry ∈ overtaken := by
  induction run with
  | nil => cases listed
  | @snoc events event middle final rest step induction =>
      rw [← List.append_assoc]
      rcases List.mem_append.1 listed with before | last
      · rcases induction before with ⟨overtaken, found, member⟩
        exact ⟨overtaken, List.mem_append_left _ found, member⟩
      · rw [List.mem_singleton] at last
        subst last
        generalize notCurrent : false = current at step
        cases step with
        | evaluated entry before after snapshot bar now waits =>
            have waiting : entry ∈ middle.handed := by simp [waits]
            rcases Run.accounted rest sound accounted entry waiting with held | overtaken
            · rw [held] at notCurrent
              cases notCurrent
            · rcases overtaken with ⟨overtaken, found, member⟩
              exact ⟨overtaken, List.mem_append_left _ found, member⟩

/-! ## Evaluating next to changes -/

/-- Steps that leave an alert registered: edits, and anything that happens to other alerts. -/
abbrev RunKeeping (id : String) : SharedAlerts → List AlertEvent → SharedAlerts → Prop :=
  StepRun (fun state event next => Step state event next ∧ next.registry.IsRegistered id)

theorem RunKeeping.run {id : String} {start final : SharedAlerts} {events : List AlertEvent}
    (run : RunKeeping id start events final) : Run start events final :=
  StepRun.mono run (fun _ _ _ step => step.1)

theorem RunKeeping.tallied {id : String} {initial : AlertRuntime} {start final : SharedAlerts}
    {events : List AlertEvent} (run : RunKeeping id start events final) (sound : start.Sound)
    (registered : start.registry.runtime? id = some initial) :
    Tallied id initial (includedEvents id events) final.registry := by
  induction run with
  | nil => exact .start registered
  | snoc rest step induction =>
      have restSound := Run.sound (RunKeeping.run rest) sound
      exact step.1.tallied restSound step.2 induction

/-- Bars of which no two in a row are the same are at most one bar. -/
theorem length_le_one_of_same_bar {initial : AlertRuntime} {included : List TriggerEvent}
    (distinct : (firedBars initial included).IsChain (· ≠ ·)) {time : Int}
    (same : ∀ event ∈ included, event.barTime = time) : included.length ≤ 1 := by
  rcases included with _ | ⟨first, _ | ⟨second, rest⟩⟩
  · exact Nat.zero_le _
  · exact Nat.le_refl _
  · simp only [firedBars, List.map_cons] at distinct
    rw [List.isChain_cons_cons, List.isChain_cons_cons] at distinct
    have firstSame := same first List.mem_cons_self
    have secondSame := same second (List.mem_cons_of_mem _ List.mem_cons_self)
    rw [firstSame, secondSame] at distinct
    exact absurd rfl distinct.2.1

/-- As long as an alert stays registered, however it is edited, its registered cell remembers
exactly the events that were emitted by the cell registered at the time; no two of these in a row,
and so no two on one bar, have the same id. Whatever else was emitted came from an alert that a
change overtook between its handing out and its evaluation. -/
theorem events_remembered_unless_overtaken {earlier events : List AlertEvent}
    {start final : SharedAlerts} (reached : Run {} earlier start) {id : String}
    {initial : AlertRuntime} (registered : start.registry.runtime? id = some initial)
    (run : RunKeeping id start events final) :
    (∃ runtime, final.registry.runtime? id = some runtime ∧
      runtime.triggerCount =
        initial.triggerCount + UInt64.ofNat (includedEvents id events).length ∧
      (firedBars initial (includedEvents id events)).getLast? = some runtime.lastFiredAt) ∧
    (firedBars initial (includedEvents id events)).IsChain (· ≠ ·) ∧
    (∀ event ∈ includedEvents id events, event.eventId = eventIdOf id event.barTime) ∧
    (∀ time, (∀ event ∈ includedEvents id events, event.barTime = time) →
      (includedEvents id events).length ≤ 1) ∧
    (∀ entry event, .evaluated entry (some event) false ∈ events →
      ∃ overtaken, .changed overtaken ∈ earlier ++ events ∧ entry ∈ overtaken) := by
  have sound := Run.sound reached .empty
  have tallied := RunKeeping.tallied run sound registered
  have accounted : Accounted earlier start := by
    have fromEmpty : Accounted [] {} := fun entry member => by cases member
    exact Run.accounted reached .empty fromEmpty
  refine ⟨?_, tallied.distinct, tallied.ids, ?_, ?_⟩
  · rcases tallied.remembers with ⟨last, firing, isLast⟩
    simp only [Registry.firing?] at firing
    rcases Option.map_eq_some_iff.1 firing with ⟨runtime, found, same⟩
    rcases Prod.mk.inj same with ⟨count, sameLast⟩
    rw [← sameLast] at isLast
    exact ⟨runtime, found, count, isLast⟩
  · intro time same
    exact length_le_one_of_same_bar tallied.distinct same
  · intro entry event listed
    exact Run.overtaken_of_not_current (RunKeeping.run run) sound accounted listed

/-! An alert that is edited while a tick is about to evaluate it, and one that is moved to another
market and back between ticks. -/

def closeAbove (symbol ownerId : String) : Alert :=
  { id := "a1", ownerId, symbol, timeframe := .hour
    logic := .conditions
      [{ subject := .price .close, operator := .greater, comparand := .literal 1
         timeframe := .same, percentage := none }] .all
    fireMode := .perBar, action := .nothing }

def barAt (time : Int) : Candle := ⟨time, 5, 6, 4, 5, 1⟩

/-- An alert evaluated on a single bar. -/
def passAt (alert : Alert) (time : Int) (runtime : AlertRuntime) : AlertPass :=
  alert.pass
    (Snapshot.ofGroup (fun _ _ => none) (GroupKey.of alert) [alert] [barAt time]).1 (barAt time)
    ⟨1700000000, 0⟩ runtime

theorem emits_of_map (pass : AlertPass) (id : String)
    (emits : pass.event.map TriggerEvent.eventId = some id) :
    ∃ event, pass.event = some event ∧ event.eventId = id :=
  Option.map_eq_some_iff.1 emits

/-- The only alert there is is handed out. -/
theorem Step.handOutOnly {registry : Registry} {id : String} {entry : Registered}
    (only : registry.alerts.entries = [(id, entry)]) :
    Step { registry } .handedOut { registry, handed := [entry] } := by
  have handed := Step.handedOut { registry }
  rw [Registry.groups_of_single only] at handed
  exact handed

theorem Step.evaluateOnly {registry : Registry} {entry : Registered} {time : Int}
    {emitted : TriggerEvent}
    (emits : (passAt entry.alert time (registry.cell entry.cell)).event = some emitted)
    {current : Bool} (holds : registry.holds entry = current) :
    Step { registry, handed := [entry] } (.evaluated entry (some emitted) current)
      { registry := registry.setCell entry.cell
          (passAt entry.alert time (registry.cell entry.cell)).runtime } := by
  rw [← emits, ← holds]
  exact .evaluated { registry, handed := [entry] } entry [] [] _ (barAt time) _ rfl

theorem Step.activate (state : SharedAlerts) (alert : Alert) {caught : List Registered}
    (overtakes : state.overtaken (state.registry.activate alert none).2 = caught) :
    Step state (.changed caught)
      { state with registry := (state.registry.activate alert none).2 } := by
  rw [← overtakes]
  exact .changed state _ (.activated alert none)

def onBtc : Registered := { alert := closeAbove "BTC" "owner", cell := 0 }

def activatedOnce : Registry := (({} : Registry).activate onBtc.alert none).2

/-- The alert after its owner was changed. -/
def handedOver : Registered := { alert := closeAbove "BTC" "other", cell := 1 }

def editedOnce : Registry := (activatedOnce.activate handedOver.alert none).2

/-- The registry after the edited alert was evaluated on the cell that it had before. -/
def firedTooLate : Registry :=
  editedOnce.setCell 0 (passAt onBtc.alert 3600 (editedOnce.cell 0)).runtime

def firedOnBtc : Registry :=
  activatedOnce.setCell 0 (passAt onBtc.alert 3600 (activatedOnce.cell 0)).runtime

def onEth : Registered := { alert := closeAbove "ETH" "owner", cell := 1 }

def movedToEth : Registry := (firedOnBtc.activate onEth.alert none).2

def firedOnEth : Registry :=
  movedToEth.setCell 1 (passAt onEth.alert 7200 (movedToEth.cell 1)).runtime

def backOnBtc : Registered := { alert := onBtc.alert, cell := 2 }

def movedBack : Registry := (firedOnEth.activate backOnBtc.alert none).2

theorem activated_run : Run {} [.changed []] { registry := activatedOnce } :=
  .single (Step.activate {} onBtc.alert rfl)

theorem edited_alert_fires_twice_on_a_bar :
    (∃ first second middle final,
      Run {} [.changed [], .handedOut, .changed [onBtc], .evaluated onBtc (some first) false]
        middle ∧
      middle.registry.firing? "a1" = some (0, none) ∧
      Run middle [.handedOut, .evaluated handedOver (some second) true] final ∧
      final.registry.firing? "a1" = some (1, some 3600) ∧
      first.eventId = "a1:3600" ∧ second.eventId = "a1:3600") ∧
    (∃ first second third final,
      Run {}
        [.changed [], .handedOut, .evaluated onBtc (some first) true,
          .changed [], .handedOut, .evaluated onEth (some second) true,
          .changed [], .handedOut, .evaluated backOnBtc (some third) true] final ∧
      first.eventId = "a1:3600" ∧ second.eventId = "a1:7200" ∧ third.eventId = "a1:3600") := by
  constructor
  · rcases emits_of_map (passAt onBtc.alert 3600 (editedOnce.cell 0)) "a1:3600"
      (by decide +kernel) with ⟨first, firstEmits, firstId⟩
    rcases emits_of_map (passAt handedOver.alert 3600 (firedTooLate.cell 1)) "a1:3600"
      (by decide +kernel) with ⟨second, secondEmits, secondId⟩
    have activatedOnly : activatedOnce.alerts.entries = [("a1", onBtc)] := rfl
    have editedOnly : firedTooLate.alerts.entries = [("a1", handedOver)] := rfl
    have outdated : editedOnce.holds onBtc = false := by decide +kernel
    have current : firedTooLate.holds handedOver = true := by decide +kernel
    have handed := activated_run.snoc (Step.handOutOnly activatedOnly)
    have edited := handed.snoc (Step.activate _ handedOver.alert rfl)
    have tooLate := edited.snoc (Step.evaluateOnly firstEmits outdated)
    have again : Run { registry := firedTooLate } _ _ := .single (Step.handOutOnly editedOnly)
    have counted := again.snoc (Step.evaluateOnly secondEmits current)
    exact ⟨first, second, _, _, tooLate, by decide +kernel, counted, by decide +kernel, firstId,
      secondId⟩
  · rcases emits_of_map (passAt onBtc.alert 3600 (activatedOnce.cell 0)) "a1:3600"
      (by decide +kernel) with ⟨first, firstEmits, firstId⟩
    rcases emits_of_map (passAt onEth.alert 7200 (movedToEth.cell 1)) "a1:7200"
      (by decide +kernel) with ⟨second, secondEmits, secondId⟩
    rcases emits_of_map (passAt backOnBtc.alert 3600 (movedBack.cell 2)) "a1:3600"
      (by decide +kernel) with ⟨third, thirdEmits, thirdId⟩
    have activatedOnly : activatedOnce.alerts.entries = [("a1", onBtc)] := rfl
    have ethOnly : movedToEth.alerts.entries = [("a1", onEth)] := rfl
    have backOnly : movedBack.alerts.entries = [("a1", backOnBtc)] := rfl
    have btcCurrent : activatedOnce.holds onBtc = true := by decide +kernel
    have ethCurrent : movedToEth.holds onEth = true := by decide +kernel
    have backCurrent : movedBack.holds backOnBtc = true := by decide +kernel
    have handed := activated_run.snoc (Step.handOutOnly activatedOnly)
    have fired := handed.snoc (Step.evaluateOnly firstEmits btcCurrent)
    have moved := fired.snoc (Step.activate { registry := firedOnBtc } onEth.alert rfl)
    have handedEth := moved.snoc (Step.handOutOnly ethOnly)
    have firedEth := handedEth.snoc (Step.evaluateOnly secondEmits ethCurrent)
    have back := firedEth.snoc (Step.activate { registry := firedOnEth } backOnBtc.alert rfl)
    have handedBack := back.snoc (Step.handOutOnly backOnly)
    have firedBack := handedBack.snoc (Step.evaluateOnly thirdEmits backCurrent)
    exact ⟨first, second, third, _, firedBack, firstId, secondId, thirdId⟩

theorem fire_before_edit_is_remembered :
    ∃ emitted runtime,
      RunKeeping "a1" { registry := activatedOnce }
        [.handedOut, .evaluated onBtc (some emitted) true, .changed []]
        { registry := movedToEth } ∧
      emitted.eventId = "a1:3600" ∧ movedToEth.runtime? "a1" = some runtime ∧
      runtime.triggerCount = 1 ∧ runtime.lastFiredAt = some emitted.barTime := by
  rcases emits_of_map (passAt onBtc.alert 3600 (activatedOnce.cell 0)) "a1:3600"
    (by decide +kernel) with ⟨emitted, emits, emittedId⟩
  have activatedOnly : activatedOnce.alerts.entries = [("a1", onBtc)] := rfl
  have current : activatedOnce.holds onBtc = true := by decide +kernel
  have handed : RunKeeping "a1" { registry := activatedOnce } _ _ :=
    .single ⟨Step.handOutOnly activatedOnly, rfl⟩
  have fired := handed.snoc ⟨Step.evaluateOnly emits current, rfl⟩
  have moved : RunKeeping "a1" { registry := activatedOnce }
      [.handedOut, .evaluated onBtc (some emitted) true, .changed []] { registry := movedToEth } :=
    fired.snoc ⟨Step.activate { registry := firedOnBtc } onEth.alert rfl, rfl⟩
  have registered : activatedOnce.runtime? "a1" = some {} := rfl
  have remembered := events_remembered_unless_overtaken activated_run registered moved
  rcases remembered.1 with ⟨runtime, found, count, last⟩
  have included : includedEvents "a1"
      [.handedOut, .evaluated onBtc (some emitted) true, .changed []] = [emitted] := rfl
  rw [included] at count last
  exact ⟨emitted, runtime, moved, emittedId, found, count, (Option.some.inj last).symm⟩

end SharedAlerts

end CandleAlerts
