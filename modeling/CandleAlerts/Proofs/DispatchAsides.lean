import CandleAlerts.Proofs.DispatchRuns

/-!
What dispatches do to a tick: next to nothing.

A dispatch leaves the alerts and their cells, the market and the tick under way alone. It puts
deliveries and waiting errands on the agenda, and a group that waits for it is told when it has
ended; the group itself it does not change.
-/

namespace CandleAlerts

theorem Services.beginDispatch_registry (services : Services) (alert : Alert) (event : TriggerEvent)
    (defaultSecret : String) (now : Instant) (clock : Nat) :
    (services.beginDispatch alert event defaultSecret now clock).2.registry = services.registry := by
  have claimed (key : String) (lifetime : Nat) :
      (services.claim key lifetime clock).2.registry = services.registry := by
    simp only [Services.claim]
    split <;> rfl
  have begun (services : Services) :
      (services.beginClaimed alert event defaultSecret now).2.registry = services.registry := by
    simp only [Services.beginClaimed, Services.changeStore, Services.publish, Services.count]
    split <;> split <;> rfl
  rcases services.beginDispatch_cases alert event defaultSecret now clock with same | same
  · rw [same]
    exact claimed _ _
  · rw [same]
    exact (begun _).trans (claimed _ _)

namespace Simulation

/-! ## What a state knows of ticks -/

/-- Whether an errand of a group is of a tick that is known. -/
def Errand.Known (known : Nat → Prop) (errand : Errand) : Prop :=
  ∀ tick place, errand.group = some (tick, place) → known tick

/-- Whether a task is about ticks that are known, and does not give up the one under way. -/
def Task.Known (known : Nat → Prop) : Task → Prop
  | .groupReady tick _ | .groupAdmitted tick _ | .groupFetched tick _ | .groupErrandDone tick _
  | .groupBudgetSpent tick _ => known tick
  | .errandReady errand | .errandAdmitted errand => errand.Known known
  | .deliveryDue _ _ | .tickDue => True
  | .schedulerStops => False

/-- Whether a task is one of those that dispatches put on the agenda. -/
def Task.OfDispatch : Task → Prop
  | .groupErrandDone _ _ | .errandAdmitted _ | .deliveryDue _ _ => True
  | .groupReady _ _ | .groupAdmitted _ _ | .groupFetched _ _ | .groupBudgetSpent _ _
  | .errandReady _ | .tickDue | .schedulerStops => False

namespace State

/-- Whether all that is to be done is about ticks that are known. -/
structure Knows (known : Nat → Prop) (state : State) : Prop where
  agenda : ∀ entry ∈ state.agenda, entry.2.Known known
  waiting : ∀ errand ∈ state.waiting, errand.Known known
  jobs : ∀ job ∈ state.jobs, job.errand.Known known

theorem Knows.mono {known wider : Nat → Prop} {state : State} (knows : state.Knows known)
    (widens : ∀ tick, known tick → wider tick) : state.Knows wider := by
  have errands (errand : Errand) (isKnown : errand.Known known) : errand.Known wider :=
    fun tick place group => widens tick (isKnown tick place group)
  refine ⟨?_, fun errand among => errands errand (knows.waiting errand among),
    fun job among => errands job.errand (knows.jobs job among)⟩
  intro entry among
  have isKnown := knows.agenda entry among
  cases task : entry.2 with
  | errandReady errand | errandAdmitted errand =>
      rw [task] at isKnown
      exact errands errand isKnown
  | deliveryDue | tickDue => exact trivial
  | schedulerStops =>
      rw [task] at isKnown
      exact isKnown
  | _ =>
      rw [task] at isKnown
      exact widens _ isKnown

theorem Knows.plan {known : Nat → Prop} {state : State} (knows : state.Knows known) (due : Nat)
    {task : Task} (isKnown : task.Known known) : (state.plan due task).Knows known := by
  refine ⟨?_, knows.waiting, knows.jobs⟩
  intro entry among
  rcases List.mem_cons.1 ((state.plan_agenda due task).mem_iff.1 among) with rfl | earlier
  · exact isKnown
  · exact knows.agenda entry earlier

/-! ## Asides -/

/-- What a tick does not notice, but for what is on the agenda: it concerns dispatches of groups of
ticks that are known. -/
structure Aside (known : Nat → Prop) (before after : State) : Prop where
  alerts : after.services.registry.alerts = before.services.registry.alerts
  cells : after.services.registry.cells = before.services.registry.cells
  indicators : after.indicators = before.indicators
  market : after.market = before.market
  fetches : after.fetches = before.fetches
  numbers : after.numbers = before.numbers
  tick : after.tick = before.tick
  reports : after.tickReports = before.tickReports
  agenda : ∃ more, after.agenda.Perm (more ++ before.agenda) ∧
    ∀ entry ∈ more, entry.2.OfDispatch
  pending : after.pending.Perm before.pending
  knows : before.Knows known → after.Knows known

variable {known : Nat → Prop}

namespace Aside

/-- What leaves the agenda alone, the errands that wait, and the jobs. -/
theorem of_same {before after : State}
    (alerts : after.services.registry.alerts = before.services.registry.alerts)
    (cells : after.services.registry.cells = before.services.registry.cells)
    (indicators : after.indicators = before.indicators) (market : after.market = before.market)
    (fetches : after.fetches = before.fetches) (numbers : after.numbers = before.numbers)
    (tick : after.tick = before.tick) (reports : after.tickReports = before.tickReports)
    (agenda : after.agenda = before.agenda) (waiting : after.waiting = before.waiting)
    (jobs : after.jobs = before.jobs) : Aside known before after := by
  refine ⟨alerts, cells, indicators, market, fetches, numbers, tick, reports, ⟨[], ?_, by simp⟩,
    ?_, ?_⟩
  · rw [agenda, List.nil_append]
  · simp only [State.pending]
    rw [agenda, waiting]
  · intro knows
    refine ⟨?_, ?_, ?_⟩
    · rw [agenda]
      exact knows.agenda
    · rw [waiting]
      exact knows.waiting
    · rw [jobs]
      exact knows.jobs

theorem refl (state : State) : Aside known state state :=
  of_same rfl rfl rfl rfl rfl rfl rfl rfl rfl rfl rfl

theorem trans {first second third : State} (left : Aside known first second)
    (right : Aside known second third) : Aside known first third where
  alerts := right.alerts.trans left.alerts
  cells := right.cells.trans left.cells
  indicators := right.indicators.trans left.indicators
  market := right.market.trans left.market
  fetches := right.fetches.trans left.fetches
  numbers := right.numbers.trans left.numbers
  tick := right.tick.trans left.tick
  reports := right.reports.trans left.reports
  agenda := by
    rcases left.agenda with ⟨earlier, leftAgenda, leftTasks⟩
    rcases right.agenda with ⟨later, rightAgenda, rightTasks⟩
    refine ⟨later ++ earlier, ?_, ?_⟩
    · rw [List.append_assoc]
      exact rightAgenda.trans (leftAgenda.append_left later)
    · intro entry among
      rcases List.mem_append.1 among with inLater | inEarlier
      · exact rightTasks entry inLater
      · exact leftTasks entry inEarlier
  pending := right.pending.trans left.pending
  knows knows := right.knows (left.knows knows)

/-- What changes no more than the services, and of these not the alerts and their cells. -/
theorem of_services (state : State) {services : Services}
    (alerts : services.registry.alerts = state.services.registry.alerts)
    (cells : services.registry.cells = state.services.registry.cells) :
    Aside known state { state with services } :=
  of_same alerts cells rfl rfl rfl rfl rfl rfl rfl rfl rfl

theorem of_undisturbed (state : State) {services : Services} {about : String → Prop}
    (undisturbed : Services.Undisturbed about state.services services) :
    Aside known state { state with services } :=
  of_services state undisturbed.alerts undisturbed.cells

end Aside

theorem plan_aside (state : State) (due : Nat) {task : Task} (isKnown : task.Known known)
    (ofDispatch : task.OfDispatch) (other : task.errand? = none) :
    Aside known state (state.plan due task) := by
  have calm : Calm (fun _ => False) state (state.plan due task) := state.plan_calm due other
  exact ⟨rfl, rfl, rfl, rfl, rfl, rfl, rfl, rfl,
    ⟨[(due, task)], state.plan_agenda due task, by simpa using ofDispatch⟩, calm.pending,
    fun knows => knows.plan due isKnown⟩

/-! ## Deliveries -/

theorem attempt_aside (setting : Setting) (state : State) (event : TriggerEvent)
    (target : WebhookTarget) (progress : Webhook.DeliveryProgress) :
    Aside known state (state.attempt setting event target progress).2 := by
  have replied (asking : State) (url : String) :
      Aside known asking (asking.receiverReply url).2 := by
    simp only [receiverReply]
    split
    · exact .of_same rfl rfl rfl rfl rfl rfl rfl rfl rfl rfl rfl
    · exact .refl asking
  have called : Aside known state (state.asking setting event target) :=
    .of_same rfl rfl rfl rfl rfl rfl rfl rfl rfl rfl rfl
  rw [attempt_eq]
  exact called.trans (replied _ _)

theorem followStep_aside (setting : Setting) (state : State) (event : TriggerEvent)
    (target : WebhookTarget) (step : Webhook.DeliveryStep) :
    Aside known state (state.followStep setting event target step).2 := by
  cases step with
  | attempt wait progress => exact .refl state
  | finished outcome => exact .of_services state rfl rfl

theorem deliveryFrame_aside (setting : Setting) (event : TriggerEvent) :
    DeliveryFrame setting event (fun _ => True) (Aside known) where
  refl := .refl
  trans := .trans
  attempt {target} _ state progress := attempt_aside setting state event target progress
  followStep {target} _ state step := followStep_aside setting state event target step

theorem planDeliveries_aside (state : State) (number : Nat) (places : List Nat)
    (deliveries : List (WebhookTarget × DeliveryPhase)) :
    Aside known state (state.planDeliveries number places deliveries) := by
  simp only [planDeliveries]
  induction places generalizing state with
  | nil => exact .refl state
  | cons place rest induction =>
      rw [List.foldl_cons]
      refine Aside.trans ?_ (induction _)
      split
      · exact plan_aside state _ trivial trivial rfl
      · exact .refl state

/-! ## Errands -/

theorem withoutJob_aside (state : State) (number : Nat) :
    Aside known state (state.withoutJob number) :=
  ⟨rfl, rfl, rfl, rfl, rfl, rfl, rfl, rfl, ⟨[], .refl _, by simp⟩, .refl _, fun knows =>
    ⟨knows.agenda, knows.waiting, fun job among => knows.jobs job (List.mem_of_mem_filter among)⟩⟩

theorem releaseSlot_aside (state : State) : Aside known state state.releaseSlot := by
  simp only [releaseSlot]
  split
  · exact .of_same rfl rfl rfl rfl rfl rfl rfl rfl rfl rfl rfl
  · rename_i next rest waiting
    refine ⟨rfl, rfl, rfl, rfl, rfl, rfl, rfl, rfl, ?_, ?_, ?_⟩
    · exact ⟨[(state.time, .errandAdmitted next)],
        plan_agenda { state with waiting := rest } state.time (.errandAdmitted next),
        by simp [Task.OfDispatch]⟩
    · exact (pending_plan { state with waiting := rest } state.time (.errandAdmitted next)).trans
        (pending_call waiting).symm
    · intro knows
      have fewer : State.Knows known { state with waiting := rest } :=
        ⟨knows.agenda, fun errand among => knows.waiting errand (by
          rw [waiting]
          exact List.mem_cons_of_mem _ among), knows.jobs⟩
      apply fewer.plan state.time
      apply knows.waiting next
      rw [waiting]
      exact List.mem_cons_self

variable {errand : Errand}

theorem endErrand_aside (state : State) (isKnown : errand.Known known) :
    Aside known state (state.endErrand errand) := by
  have given : Aside known state (state.withoutJob errand.number) :=
    state.withoutJob_aside errand.number
  simp only [endErrand]
  split
  · exact given
  · rename_i tick place group
    exact (given.trans (releaseSlot_aside _)).trans
      (plan_aside _ _ (isKnown tick place group) trivial rfl)

theorem settleJob_aside (setting : Setting) (state : State) (job : Job)
    (isKnown : job.errand.Known known) (places : List Nat) :
    Aside known state (state.settleJob setting job places) := by
  simp only [settleJob]
  split
  · rename_i outcomes _
    have finished : Services.Undisturbed (fun _ => True) state.services
        (state.services.finishDispatch job.dispatch outcomes setting.calendar).2 :=
      Services.finishDispatch_undisturbed _ trivial _ _
    have told : Aside known state { state with services :=
        (state.services.finishDispatch job.dispatch outcomes setting.calendar).2 } :=
      .of_undisturbed state finished
    refine (told.trans ?_).trans (endErrand_aside _ isKnown)
    exact .of_same rfl rfl rfl rfl rfl rfl rfl rfl rfl rfl rfl
  · have put (state : State) : Aside known state { state with jobs := state.jobs ++ [job] } := by
      refine ⟨rfl, rfl, rfl, rfl, rfl, rfl, rfl, rfl, ⟨[], .refl _, by simp⟩, .refl _, ?_⟩
      intro knows
      refine ⟨knows.agenda, knows.waiting, ?_⟩
      intro other among
      rcases List.mem_append.1 among with earlier | last
      · exact knows.jobs other earlier
      · rw [List.mem_singleton.1 last]
        exact isKnown
    exact ((withoutJob_aside state job.errand.number).trans (put _)).trans
      (planDeliveries_aside _ _ _ _)

theorem beginJob_aside (setting : Setting) (state : State) (isKnown : errand.Known known)
    (dispatch : Dispatch) : Aside known state (state.beginJob setting errand dispatch) := by
  have frame : DeliveryFrame setting dispatch.event (fun _ => True) (Aside known) :=
    deliveryFrame_aside setting dispatch.event
  have started := frame.startDeliveries state
  simp only [beginJob]
  generalize state.startDeliveries setting dispatch = start at started ⊢
  rcases start with ⟨deliveries, begun⟩
  have carried := started.trans
    (frame.carryOnAll (List.range deliveries.length) deliveries begun)
  dsimp only
  generalize State.carryOnAll setting dispatch.event (List.range deliveries.length) deliveries begun
    = result at carried ⊢
  rcases result with ⟨outcome, now⟩
  cases outcome with
  | none => exact carried.trans (endErrand_aside now isKnown)
  | some deliveries =>
      have notified : Services.Undisturbed (fun _ => True) now.services
          (now.services.notifyUsers dispatch).2 := Services.notifyUsers_undisturbed _ _
      exact (carried.trans (.of_undisturbed now notified)).trans
        (settleJob_aside setting _
          ⟨errand, (now.services.notifyUsers dispatch).1, deliveries⟩ isKnown _)

theorem beginErrand_aside (setting : Setting) (state : State) (isKnown : errand.Known known) :
    Aside known state (state.beginErrand setting errand) := by
  have registry := state.services.beginDispatch_registry errand.alert errand.event
    setting.defaultSecret setting.calendar 0
  simp only [beginErrand]
  generalize state.services.beginDispatch errand.alert errand.event setting.defaultSecret
    setting.calendar 0 = begun at registry ⊢
  rcases begun with ⟨outcome, services⟩
  have claimed : Aside known state { state with services } :=
    .of_services state (by rw [registry]) (by rw [registry])
  cases outcome with
  | none =>
      refine (claimed.trans ?_).trans (endErrand_aside _ isKnown)
      exact .of_same rfl rfl rfl rfl rfl rfl rfl rfl rfl rfl rfl
  | some dispatch => exact claimed.trans (beginJob_aside setting _ isKnown dispatch)

theorem carryOnJob_aside (setting : Setting) {state : State} (knows : state.Knows known)
    (number place : Nat) : Aside known state (state.carryOnJob setting number place) := by
  unfold carryOnJob
  split
  · exact .refl state
  · rename_i job isJob
    have isKnown := knows.jobs job (List.mem_of_find?_eq_some isJob)
    dsimp only
    generalize List.filter _ (state.placesToCarryOn job place) = places
    have frame : DeliveryFrame setting job.dispatch.event (fun _ => True) (Aside known) :=
      deliveryFrame_aside setting job.dispatch.event
    have carried := frame.carryOnAll places job.deliveries state
    generalize State.carryOnAll setting job.dispatch.event places job.deliveries state = result
      at carried ⊢
    rcases result with ⟨outcome, now⟩
    cases outcome with
    | none => exact carried.trans (endErrand_aside now isKnown)
    | some deliveries =>
        exact carried.trans (settleJob_aside setting now { job with deliveries } isKnown places)

theorem runRouter_aside (state : State) : Aside known state state.runRouter := by
  simp only [runRouter]
  split
  · exact .refl state
  · rename_i receiver _
    have routed : Services.Undisturbed (fun _ => True) state.services
        (state.services.routeWaiting receiver).2 := Services.routeWaiting_undisturbed _ _
    exact .of_same routed.alerts routed.cells rfl rfl rfl rfl rfl rfl rfl rfl rfl

/-! ## Moves left -/

/-- How many moves the dispatches under way may still make, their ends included. -/
def jobsLeft (setting : Setting) (jobs : List Job) : Nat :=
  (jobs.map (fun job => movesLeft setting job.deliveries + 1)).sum

theorem jobsLeft_append (setting : Setting) (jobs more : List Job) :
    jobsLeft setting (jobs ++ more) = jobsLeft setting jobs + jobsLeft setting more := by
  simp only [jobsLeft, List.map_append, List.sum_append]

theorem jobsLeft_filter_le (setting : Setting) (keeps : Job → Bool) (jobs : List Job) :
    jobsLeft setting (jobs.filter keeps) ≤ jobsLeft setting jobs := by
  induction jobs with
  | nil => exact Nat.le_refl _
  | cons first rest induction =>
      simp only [jobsLeft, List.filter_cons, List.map_cons, List.sum_cons] at induction ⊢
      split
      · simp only [List.map_cons, List.sum_cons]
        omega
      · omega

/-- A job that is taken out takes its moves with it. -/
theorem jobsLeft_filter_add_le (setting : Setting) {keeps : Job → Bool} {jobs : List Job} {job : Job}
    (listed : job ∈ jobs) (taken : keeps job = false) :
    jobsLeft setting (jobs.filter keeps) + (movesLeft setting job.deliveries + 1) ≤
      jobsLeft setting jobs := by
  rcases List.append_of_mem listed with ⟨before, after, rfl⟩
  have first := jobsLeft_filter_le setting keeps before
  have last := jobsLeft_filter_le setting keeps after
  rw [List.filter_append, List.filter_cons_of_neg (by simp [taken]), jobsLeft_append,
    jobsLeft_append]
  simp only [jobsLeft, List.map_cons, List.sum_cons] at first last ⊢
  omega

theorem endErrand_jobs (state : State) (errand : Errand) :
    (state.endErrand errand).jobs = (state.withoutJob errand.number).jobs := by
  simp only [endErrand]
  split
  · rfl
  · simp only [releaseSlot]
    split <;> rfl

/-- A dispatch that is carried on makes a move or ends, or there is only one thing less to do. -/
theorem carryOnJob_jobsLeft (setting : Setting) (state : State) (number place : Nat) :
    jobsLeft setting (state.carryOnJob setting number place).jobs < jobsLeft setting state.jobs ∨
      jobsLeft setting (state.carryOnJob setting number place).jobs ≤
          jobsLeft setting state.jobs ∧
        (state.carryOnJob setting number place).agenda = state.agenda := by
  unfold carryOnJob
  split
  · exact .inr ⟨Nat.le_refl _, rfl⟩
  · rename_i job isJob
    have listed := List.mem_of_find?_eq_some isJob
    have fewer : jobsLeft setting (state.withoutJob job.errand.number).jobs +
        (movesLeft setting job.deliveries + 1) ≤ jobsLeft setting state.jobs :=
      jobsLeft_filter_add_le setting listed (by simp)
    have allDue : ∀ other ∈ (state.placesToCarryOn job place).filter
        (state.duePlaces job.deliveries).contains, other ∈ state.duePlaces job.deliveries :=
      fun other among => List.contains_iff_mem.1 (List.mem_filter.1 among).2
    dsimp only
    generalize (state.placesToCarryOn job place).filter
      (state.duePlaces job.deliveries).contains = places at allDue ⊢
    have delivers := (deliveryFrame_delivers setting job.dispatch.event).carryOnAll places
      job.deliveries state
    have moved (deliveries : List (WebhookTarget × DeliveryPhase)) :=
      @carryOnAll_movesLeft setting job.dispatch.event places job.deliveries deliveries state
    generalize State.carryOnAll setting job.dispatch.event places job.deliveries state = result
      at delivers moved ⊢
    rcases result with ⟨outcome, now⟩
    have jobs : (now.withoutJob job.errand.number).jobs =
        (state.withoutJob job.errand.number).jobs := by
      simp only [withoutJob]
      rw [delivers.jobs]
    rw [← jobs] at fewer
    cases outcome with
    | none =>
        dsimp only
        rw [endErrand_jobs]
        exact .inl (by omega)
    | some deliveries =>
        rcases moved deliveries rfl with ⟨noMore, less⟩
        simp only [settleJob]
        split
        · rw [endErrand_jobs]
          exact .inl (Nat.lt_of_lt_of_le (Nat.lt_add_of_pos_right (Nat.succ_pos _)) fewer)
        · have planned : Calm (fun _ => False) _ _ := planDeliveries_calm
            { now.withoutJob job.errand.number with
              jobs := (now.withoutJob job.errand.number).jobs ++ [{ job with deliveries }] }
            job.errand.number places deliveries
          rw [planned.jobs, jobsLeft_append]
          simp only [jobsLeft, List.map_cons, List.map_nil, List.sum_cons, List.sum_nil] at fewer ⊢
          cases places with
          | nil => exact .inr ⟨by omega, delivers.agenda⟩
          | cons first rest =>
              rcases mem_duePlaces.1 (allDue first List.mem_cons_self) with
                ⟨delivery, due, get, isDue, reached⟩
              have strictly := less first rfl delivery due get isDue reached
              exact .inl (by omega)

end State

end Simulation

end CandleAlerts
