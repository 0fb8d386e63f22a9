import CandleAlerts.Proofs.DeliveryFrames
import CandleAlerts.Proofs.DispatchLaws
import CandleAlerts.Simulation.Run

/-!
What the parts of a simulation leave alone.

Most of what a simulation does concerns deliveries, ticks and reports. It leaves alone the
registered alerts, what was found and recorded, and the errands; it may put something on the agenda,
but no errand.
-/

namespace CandleAlerts.Simulation

/-- The errand that a task is about to run. -/
def Task.errand? : Task → Option Errand
  | .errandReady errand | .errandAdmitted errand => some errand
  | .groupReady _ _ | .groupAdmitted _ _ | .groupFetched _ _ | .groupErrandDone _ _
  | .groupBudgetSpent _ _ | .deliveryDue _ _ | .tickDue | .schedulerStops => none

/-- Whether a member of a group is evaluated by a tick. -/
def Tick.Evaluates (tick : Tick) (member : Registered) : Prop :=
  ∃ entry ∈ tick.groups, member ∈ entry.1.members

namespace State

/-- Whether a member of a group is evaluated by the tick under way. -/
def Evaluates (state : State) (member : Registered) : Prop :=
  ∃ tick, state.tick = some tick ∧ tick.Evaluates member

/-- What leaves alerts, findings, records and errands alone, and makes webhook requests only for
events that it is about. -/
structure Calm (about : String → Prop) (before after : State) : Prop where
  services : Services.Undisturbed about before.services after.services
  found : after.found = before.found
  lost : after.lost = before.lost
  waiting : after.waiting = before.waiting
  slots : after.slots = before.slots
  jobs : after.jobs = before.jobs
  numbers : before.numbers ≤ after.numbers
  agenda : ∃ more, after.agenda.Perm (more ++ before.agenda) ∧
    ∀ entry ∈ more, entry.2.errand? = none
  calls : ∃ more, after.calls = before.calls ++ more ∧ ∀ call ∈ more, about call.eventId
  evaluates : ∀ member, after.Evaluates member → before.Evaluates member

variable {about : String → Prop}

namespace Calm

/-- What keeps the agenda and the calls as they are. -/
theorem of_same {before after : State}
    (services : Services.Undisturbed about before.services after.services)
    (found : after.found = before.found) (lost : after.lost = before.lost)
    (waiting : after.waiting = before.waiting)
    (slots : after.slots = before.slots) (jobs : after.jobs = before.jobs)
    (numbers : before.numbers ≤ after.numbers) (agenda : after.agenda = before.agenda)
    (calls : after.calls = before.calls)
    (evaluates : ∀ member, after.Evaluates member → before.Evaluates member) :
    Calm about before after where
  services := services
  found := found
  lost := lost
  waiting := waiting
  slots := slots
  jobs := jobs
  numbers := numbers
  agenda := ⟨[], by rw [agenda, List.nil_append], by simp⟩
  calls := ⟨[], by rw [calls, List.append_nil], by simp⟩
  evaluates := evaluates

theorem refl (state : State) : Calm about state state :=
  of_same (.refl _) rfl rfl rfl rfl rfl (Nat.le_refl _) rfl rfl (fun _ evaluates => evaluates)

theorem trans {first second third : State} (left : Calm about first second)
    (right : Calm about second third) : Calm about first third where
  services := left.services.trans right.services
  found := right.found.trans left.found
  lost := right.lost.trans left.lost
  waiting := right.waiting.trans left.waiting
  slots := right.slots.trans left.slots
  jobs := right.jobs.trans left.jobs
  numbers := Nat.le_trans left.numbers right.numbers
  agenda := by
    rcases left.agenda with ⟨earlier, leftAgenda, leftTasks⟩
    rcases right.agenda with ⟨later, rightAgenda, rightTasks⟩
    refine ⟨later ++ earlier, ?_, ?_⟩
    · rw [List.append_assoc]
      exact rightAgenda.trans (leftAgenda.append_left later)
    · intro entry member
      rcases List.mem_append.1 member with inLater | inEarlier
      · exact rightTasks entry inLater
      · exact leftTasks entry inEarlier
  calls := by
    rcases left.calls with ⟨earlier, leftCalls, leftAbout⟩
    rcases right.calls with ⟨later, rightCalls, rightAbout⟩
    refine ⟨earlier ++ later, ?_, ?_⟩
    · rw [rightCalls, leftCalls, List.append_assoc]
    · intro call member
      rcases List.mem_append.1 member with inEarlier | inLater
      · exact leftAbout call inEarlier
      · exact rightAbout call inLater
  evaluates member evaluated := left.evaluates member (right.evaluates member evaluated)

theorem mono {wider : String → Prop} {before after : State}
    (calm : Calm about before after) (widens : ∀ eventId, about eventId → wider eventId) :
    Calm wider before after where
  services := calm.services.mono widens
  found := calm.found
  lost := calm.lost
  waiting := calm.waiting
  slots := calm.slots
  jobs := calm.jobs
  numbers := calm.numbers
  agenda := calm.agenda
  calls := by
    rcases calm.calls with ⟨more, calls, isAbout⟩
    exact ⟨more, calls, fun call member => widens _ (isAbout call member)⟩
  evaluates := calm.evaluates

/-- What leaves all of a state alone but for its services. -/
theorem of_services (state : State) {services : Services}
    (undisturbed : Services.Undisturbed about state.services services) :
    Calm about state { state with services } :=
  of_same undisturbed rfl rfl rfl rfl rfl (Nat.le_refl _) rfl rfl (fun _ evaluates => evaluates)

end Calm

/-! ## The agenda -/

theorem plan_agenda (state : State) (due : Nat) (task : Task) :
    (state.plan due task).agenda.Perm ((due, task) :: state.agenda) := by
  have inserted : (state.plan due task).agenda.Perm
      ((due, task) :: (state.agenda.takeWhile (fun entry => entry.1 ≤ due) ++
        state.agenda.dropWhile (fun entry => entry.1 ≤ due))) := List.perm_middle
  rw [List.takeWhile_append_dropWhile] at inserted
  exact inserted

theorem plan_calm (state : State) (due : Nat) {task : Task} (other : task.errand? = none) :
    Calm about state (state.plan due task) where
  services := .refl _
  found := rfl
  lost := rfl
  waiting := rfl
  slots := rfl
  jobs := rfl
  numbers := Nat.le_refl _
  agenda := ⟨[(due, task)], state.plan_agenda due task, by simp [other]⟩
  calls := ⟨[], (List.append_nil _).symm, by simp⟩
  evaluates _ evaluates := evaluates

/-! ## Deliveries -/

theorem receiverReply_calm (state : State) (url : String) :
    Calm about state (state.receiverReply url).2 := by
  simp only [receiverReply]
  split
  · exact .of_same (.refl _) rfl rfl rfl rfl rfl (Nat.le_refl _) rfl rfl (fun _ evaluates => evaluates)
  · exact .refl state

theorem attempt_calm (setting : Setting) (state : State) {event : TriggerEvent}
    (isAbout : about event.eventId) (target : WebhookTarget) (progress : Webhook.DeliveryProgress) :
    Calm about state (state.attempt setting event target progress).2 := by
  have called (call : Call) (same : call.eventId = event.eventId) : Calm about state
      { state with
        calls := state.calls ++ [call]
        services := state.services.count .webhookAttempts 1 } :=
    { services := .count _ _ _
      found := rfl
      lost := rfl
      waiting := rfl
      slots := rfl
      jobs := rfl
      numbers := Nat.le_refl _
      agenda := ⟨[], .refl _, by simp⟩
      calls := ⟨[call], rfl, by
        intro other member
        rw [List.mem_singleton] at member
        rw [member, same]
        exact isAbout⟩
      evaluates := fun _ evaluates => evaluates }
  simp only [attempt]
  split
  · exact (called _ rfl).trans (receiverReply_calm _ _)
  · exact (called _ rfl).trans (receiverReply_calm _ _)

theorem followStep_calm (setting : Setting) (state : State) (event : TriggerEvent)
    (target : WebhookTarget) (step : Webhook.DeliveryStep) :
    Calm about state (state.followStep setting event target step).2 := by
  cases step with
  | attempt wait progress => exact .refl state
  | finished outcome => exact .of_services state (.note _ _)

theorem deliveryFrame_calm (setting : Setting) {event : TriggerEvent}
    (isAbout : about event.eventId) :
    DeliveryFrame setting event (fun _ => True) (Calm about) where
  refl := .refl
  trans := .trans
  attempt {target} _ state progress := attempt_calm setting state isAbout target progress
  followStep {target} _ state step := followStep_calm setting state event target step

theorem carryOnAll_calm (setting : Setting) {event : TriggerEvent} (isAbout : about event.eventId)
    (places : List Nat) (deliveries : List (WebhookTarget × DeliveryPhase)) (state : State) :
    Calm about state (carryOnAll setting event places deliveries state).2 :=
  (deliveryFrame_calm setting isAbout).carryOnAll places deliveries state

theorem startDeliveries_calm (setting : Setting) (state : State) {dispatch : Dispatch}
    (isAbout : about dispatch.event.eventId) :
    Calm about state (state.startDeliveries setting dispatch).2 :=
  (deliveryFrame_calm setting isAbout).startDeliveries state

theorem planDeliveries_calm (state : State) (number : Nat) (places : List Nat)
    (deliveries : List (WebhookTarget × DeliveryPhase)) :
    Calm about state (state.planDeliveries number places deliveries) := by
  simp only [planDeliveries]
  induction places generalizing state with
  | nil => exact .refl state
  | cons place rest induction =>
      rw [List.foldl_cons]
      refine Calm.trans ?_ (induction _)
      split
      · exact state.plan_calm _ rfl
      · exact .refl state

theorem reportDispatch_calm (state : State) (errand : Errand) (report : DispatchReport) :
    Calm about state (state.reportDispatch errand report) :=
  .of_same (.refl _) rfl rfl rfl rfl rfl (Nat.le_refl _) rfl rfl (fun _ evaluates => evaluates)

/-- A job may be left out of account. -/
theorem Calm.withoutJob {before after : State} (calm : Calm about before after) (number : Nat) :
    Calm about (before.withoutJob number) (after.withoutJob number) where
  services := calm.services
  found := calm.found
  lost := calm.lost
  waiting := calm.waiting
  slots := calm.slots
  jobs := by
    simp only [State.withoutJob]
    rw [calm.jobs]
  numbers := calm.numbers
  agenda := calm.agenda
  calls := calm.calls
  evaluates := calm.evaluates

/-! ## Ticks -/

/-- What changes no more than the tick under way, and lets it evaluate nothing new. -/
theorem Calm.of_tick {state : State} {tick : Option Tick}
    (evaluates : ∀ current member, tick = some current → current.Evaluates member →
      state.Evaluates member) : Calm about state { state with tick } :=
  .of_same (.refl _) rfl rfl rfl rfl rfl (Nat.le_refl _) rfl rfl (by
    rintro member ⟨current, under, evaluated⟩
    exact evaluates current member under evaluated)

/-- A tick evaluates the same members when its groups are the same. -/
theorem evaluates_of_groups {state : State} {current tick : Tick}
    (under : state.tick = some current)
    (groups : tick.groups = current.groups) {member : Registered}
    (evaluated : tick.Evaluates member) :
    state.Evaluates member := by
  refine ⟨current, under, ?_⟩
  simp only [Tick.Evaluates] at evaluated ⊢
  rw [groups] at evaluated
  exact evaluated

theorem setPhase_calm {state : State} {current : Tick} (under : state.tick = some current)
    (tick : Tick) (groups : tick.groups = current.groups) (place : Nat) (phase : GroupPhase) :
    Calm about state (state.setPhase tick place phase) := by
  apply Calm.of_tick
  intro changed member same evaluated
  cases same
  rcases evaluated with ⟨entry, listed, isMember⟩
  apply evaluates_of_groups under groups
  rw [Array.mem_iff_getElem] at listed
  rcases listed with ⟨index, within, get⟩
  rw [Array.size_modify] at within
  refine ⟨tick.groups[index], Array.getElem_mem within, ?_⟩
  rw [Array.getElem_modify] at get
  split at get
  · rw [← get] at isMember
    exact isMember
  · rw [get]
    exact isMember

theorem planTick_calm (state : State) : Calm about state state.planTick := by
  simp only [planTick]
  split
  · exact state.plan_calm _ rfl
  · exact .refl state

theorem settleTick_calm (state : State) : Calm about state state.settleTick := by
  simp only [settleTick]
  split
  · exact .refl state
  · rename_i tick _
    split
    · have ended : Calm about state
          { state with tick := none, tickReports := state.tickReports ++ [tick.report] } :=
        .of_same (.refl _) rfl rfl rfl rfl rfl (Nat.le_refl _) rfl rfl (by
          rintro member ⟨other, under, -⟩
          cases under)
      exact ended.trans (planTick_calm _)
    · exact .refl state

theorem onTick_calm {state : State} (number : Nat) {change : Tick → State → State}
    (changes : ∀ tick, state.tick = some tick → Calm about state (change tick state)) :
    Calm about state (state.onTick number change) := by
  simp only [onTick]
  split
  · rename_i tick under
    split
    · exact changes tick under
    · exact .refl state
  · exact .refl state

theorem endGroup_calm (state : State) (place : Nat) (note : TickReport → TickReport) :
    Calm about state (state.endGroup place note) := by
  simp only [endGroup]
  split
  · exact .refl state
  · rename_i tick under
    have ended : Calm about state
        (state.setPhase { tick with report := note tick.report } place .ended) :=
      setPhase_calm under { tick with report := note tick.report } rfl place .ended
    exact ended.trans (settleTick_calm _)

theorem failGroup_calm (state : State) (place : Nat) (reason : String) :
    Calm about state (state.failGroup place reason) :=
  (Calm.of_services state (.count _ _ _)).trans (endGroup_calm _ _ _)

theorem completeGroup_calm (state : State) (place count : Nat) :
    Calm about state (state.completeGroup place count) :=
  endGroup_calm state place _

theorem releasePermit_calm (state : State) : Calm about state state.releasePermit := by
  simp only [releasePermit]
  split
  · exact .refl state
  · rename_i tick under
    split
    · apply Calm.of_tick
      intro changed member same evaluated
      cases same
      exact evaluates_of_groups under rfl evaluated
    · rename_i next rest _
      have taken : Calm about state { state with tick := some { tick with queue := rest } } := by
        apply Calm.of_tick
        intro changed member same evaluated
        cases same
        exact evaluates_of_groups under rfl evaluated
      exact taken.trans (plan_calm _ _ rfl)

theorem detachGroup_calm (setting : Setting) (state : State) (group : Group) (place count : Nat) :
    Calm about state (state.detachGroup setting group place count) :=
  (Calm.of_services state (.note _ _)).trans (completeGroup_calm _ _ _)

theorem marketReply_calm (state : State) (key : GroupKey) :
    Calm about state (state.marketReply key).2 := by
  simp only [marketReply]
  generalize (if state.market.contains (key.symbol ++ "@" ++ key.timeframe.text) = true
    then key.symbol ++ "@" ++ key.timeframe.text else key.symbol) = name
  split
  · exact .of_same (.refl _) rfl rfl rfl rfl rfl (Nat.le_refl _) rfl rfl (fun _ evaluates => evaluates)
  · exact .refl state

theorem marketReply_tick (state : State) (key : GroupKey) :
    (state.marketReply key).2.tick = state.tick := by
  simp only [marketReply]
  exact (apply_ite State.tick _ _ _).trans (ite_self _)

theorem noteErrandDone_calm (state : State) (tick place : Nat) :
    Calm about state (state.noteErrandDone tick place) := by
  apply onTick_calm
  intro current under
  split
  · split
    · exact completeGroup_calm state place _
    · exact setPhase_calm under current rfl place _
  · exact .refl state

theorem spendBudget_calm (setting : Setting) (state : State) (tick place : Nat) :
    Calm about state (state.spendBudget setting tick place) := by
  apply onTick_calm
  intro current under
  split
  · exact detachGroup_calm setting state _ place _
  · exact .refl state

/-! ## The scheduler and the router -/

theorem stopScheduler_calm (state : State) : Calm about state state.stopScheduler :=
  .of_same (.refl _) rfl rfl rfl rfl rfl (Nat.le_refl _) rfl rfl (by
    rintro member ⟨tick, under, -⟩
    cases under)

theorem startScheduler_calm (setting : Setting) (state : State) (duration : Nat) :
    Calm about state (state.startScheduler setting duration) := by
  have scheduled : Calm about state
      { state with
        schedule := if setting.scheduler.interval = 0 then none else some state.time
        schedulerStopped := false } :=
    .of_same (.refl _) rfl rfl rfl rfl rfl (Nat.le_refl _) rfl rfl (fun _ evaluates => evaluates)
  exact (scheduled.trans (plan_calm _ _ rfl)).trans (planTick_calm _)

theorem runRouter_calm (state : State) : Calm about state state.runRouter := by
  simp only [runRouter]
  split
  · exact .refl state
  · rename_i receiver _
    exact .of_same (Services.routeWaiting_undisturbed state.services receiver) rfl rfl rfl rfl rfl
      (Nat.le_refl _) rfl rfl (fun _ evaluates => evaluates)

/-! ## Runs -/

/-- A step is what comes first on the agenda, and then the router. -/
theorem step?_cases {setting : Setting} {until? : Option Nat} {state next : State}
    (steps : state.step? setting until? = some next) :
    ∃ due task rest, state.agenda = (due, task) :: rest ∧
      next = ({ state with agenda := rest, time := max state.time due }.perform setting
        task).runRouter := by
  simp only [step?] at steps
  split at steps
  · cases steps
  · rename_i due task rest agenda
    split at steps
    · cases steps
      exact ⟨due, task, rest, agenda, rfl⟩
    · cases steps

/-- What joins a state and the next joins the first state of a run and the last. -/
theorem runUntil_joins {setting : Setting} {joins : State → State → Prop}
    (refl : ∀ state, joins state state)
    (trans : ∀ {first second third}, joins first second → joins second third → joins first third)
    {until? : Option Nat}
    (step : ∀ {state next}, state.step? setting until? = some next → joins state next)
    (happened : State → Bool) (steps : Nat) (state : State) :
    joins state (State.runUntil setting until? happened steps state) := by
  induction steps generalizing state with
  | zero => exact refl state
  | succ steps induction =>
      simp only [runUntil]
      split
      · exact refl state
      · split
        · rename_i next isNext
          exact trans (step isNext) (induction next)
        · exact refl state

end State

end CandleAlerts.Simulation
