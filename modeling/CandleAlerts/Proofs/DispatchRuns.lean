import CandleAlerts.Proofs.DeliveryCourses
import CandleAlerts.Proofs.ErrandSchedule

/-!
How a dispatch runs that is alone.

It makes the first attempts of all its deliveries and notifies its users. Every time a delivery then
comes up on the agenda, one of them makes a move, or there is one thing less to do; so all of them
end. Then each is audited and the dispatch is reported.
-/

namespace CandleAlerts.Simulation

/-- How many moves a delivery may still make. -/
def DeliveryPhase.movesLeft (policy : Webhook.RetryPolicy) : DeliveryPhase → Nat
  | .pausing _ progress => 2 * (policy.attempts - progress.attempt) + 2
  | .answering _ progress _ => 2 * (policy.attempts - progress.attempt) + 1
  | .crashed | .ended _ => 0

namespace State

/-! ## Moves -/

theorem attempt_movesLeft (setting : Setting) (state : State) (event : TriggerEvent)
    (target : WebhookTarget) (due : Nat) (progress : Webhook.DeliveryProgress) :
    (state.attempt setting event target progress).1.movesLeft setting.policy <
      (DeliveryPhase.pausing due progress).movesLeft setting.policy := by
  rw [attempt_eq]
  dsimp only
  split
  · exact Nat.succ_pos _
  · exact Nat.lt_succ_self _

theorem followStep_movesLeft (setting : Setting) (state : State) (event : TriggerEvent)
    (target : WebhookTarget) (due : Nat) (progress : Webhook.DeliveryProgress)
    (result : Webhook.AttemptResult) :
    (state.followStep setting event target
        (setting.policy.afterAttempt progress result)).1.movesLeft setting.policy <
      (DeliveryPhase.answering due progress result).movesLeft setting.policy := by
  have retried (status : Option Nat) (reason : String) :
      (state.followStep setting event target
          (setting.policy.retry progress status reason)).1.movesLeft setting.policy <
        (DeliveryPhase.answering due progress result).movesLeft setting.policy := by
    unfold Webhook.RetryPolicy.retry
    split
    · dsimp only [followStep, DeliveryPhase.movesLeft]
      omega
    · exact Nat.succ_pos _
  cases result with
  | status code =>
      dsimp only [Webhook.RetryPolicy.afterAttempt]
      split
      · exact Nat.succ_pos _
      · exact Nat.succ_pos _
      · exact retried _ _
  | failure reason => exact retried _ _
  | timeout => exact retried _ _

/-- A delivery that is due makes a move, and none ever has more moves left. -/
theorem carryOn_movesLeft (setting : Setting) (event : TriggerEvent) (target : WebhookTarget)
    (moves : Nat) (phase : DeliveryPhase) (state : State) :
    (carryOn setting event target moves phase state).1.movesLeft setting.policy ≤
        phase.movesLeft setting.policy ∧
      (0 < moves → (∃ due, phase.due? = some due ∧ due ≤ state.time) →
        (carryOn setting event target moves phase state).1.movesLeft setting.policy <
          phase.movesLeft setting.policy) := by
  induction moves generalizing phase state with
  | zero => exact ⟨Nat.le_refl _, fun positive => absurd positive (Nat.lt_irrefl 0)⟩
  | succ moves induction =>
      cases phase with
      | pausing due progress =>
          unfold carryOn
          dsimp only
          split
          · rename_i early
            refine ⟨Nat.le_refl _, ?_⟩
            rintro - ⟨_, ⟨⟩, reached⟩
            exact absurd reached (Nat.not_le.2 early)
          · have moved := Nat.lt_of_le_of_lt
              (induction _ (state.attempt setting event target progress).2).1
              (attempt_movesLeft setting state event target due progress)
            exact ⟨Nat.le_of_lt moved, fun _ _ => moved⟩
      | answering due progress result =>
          unfold carryOn
          dsimp only
          split
          · rename_i early
            refine ⟨Nat.le_refl _, ?_⟩
            rintro - ⟨_, ⟨⟩, reached⟩
            exact absurd reached (Nat.not_le.2 early)
          · have moved := Nat.lt_of_le_of_lt
              (induction _ (state.followStep setting event target
                (setting.policy.afterAttempt progress result)).2).1
              (followStep_movesLeft setting state event target due progress result)
            exact ⟨Nat.le_of_lt moved, fun _ _ => moved⟩
      | crashed => exact ⟨Nat.le_refl _, by rintro - ⟨_, ⟨⟩, -⟩⟩
      | ended outcome => exact ⟨Nat.le_refl _, by rintro - ⟨_, ⟨⟩, -⟩⟩

/-- How many moves the deliveries may still make. -/
def movesLeft (setting : Setting) (deliveries : List (WebhookTarget × DeliveryPhase)) : Nat :=
  (deliveries.map (fun delivery => delivery.2.movesLeft setting.policy)).sum

theorem movesLeft_set (setting : Setting) {deliveries : List (WebhookTarget × DeliveryPhase)}
    {place : Nat} {target : WebhookTarget} {phase : DeliveryPhase}
    (get : deliveries[place]? = some (target, phase)) (next : DeliveryPhase) :
    movesLeft setting (deliveries.set place (target, next)) + phase.movesLeft setting.policy =
      movesLeft setting deliveries + next.movesLeft setting.policy := by
  induction deliveries generalizing place with
  | nil => cases get
  | cons first rest induction =>
      cases place with
      | zero =>
          cases get
          simp only [movesLeft, List.set_cons_zero, List.map_cons, List.sum_cons]
          omega
      | succ place =>
          have later := induction get
          simp only [movesLeft, List.set_cons_succ, List.map_cons, List.sum_cons] at later ⊢
          omega

/-- If one is due, deliveries that are carried on have fewer moves left. -/
theorem carryOnAll_movesLeft (setting : Setting) (event : TriggerEvent) (places : List Nat)
    {deliveries carried : List (WebhookTarget × DeliveryPhase)} {state : State}
    (isCarried : (carryOnAll setting event places deliveries state).1 = some carried) :
    movesLeft setting carried ≤ movesLeft setting deliveries ∧
      ∀ place ∈ places.head?, ∀ delivery due, deliveries[place]? = some delivery →
        delivery.2.due? = some due → due ≤ state.time →
          movesLeft setting carried < movesLeft setting deliveries := by
  induction places generalizing deliveries state with
  | nil =>
      cases isCarried
      exact ⟨Nat.le_refl _, by rintro place ⟨⟩⟩
  | cons place rest induction =>
      unfold carryOnAll at isCarried
      split at isCarried
      · rename_i absent
        refine ⟨(induction isCarried).1, ?_⟩
        rintro _ ⟨⟩ delivery due get
        rw [absent] at get
        cases get
      · rename_i target phase isAt
        dsimp only at isCarried
        split at isCarried
        · cases isCarried
        · rcases carryOn_movesLeft setting event target (deliveryMoves setting) phase state with
            ⟨noMore, fewer⟩
          have set := movesLeft_set setting isAt
            (carryOn setting event target (deliveryMoves setting) phase state).1
          have later := (induction isCarried).1
          refine ⟨by omega, ?_⟩
          rintro _ ⟨⟩ delivery due get isDue reached
          rw [isAt] at get
          cases get
          have less := fewer (Nat.succ_pos _) ⟨due, isDue, reached⟩
          omega

/-- What the agenda of a dispatch holds. -/
def DeliveriesOf (number : Nat) (agenda : List (Nat × Task)) : Prop :=
  ∀ entry ∈ agenda, ∃ place, entry.2 = .deliveryDue number place

/-- Putting deliveries on the agenda changes nothing else. -/
theorem planDeliveries_eq (state : State) (number : Nat) (places : List Nat)
    (deliveries : List (WebhookTarget × DeliveryPhase))
    (listed : DeliveriesOf number state.agenda) :
    ∃ agenda, state.planDeliveries number places deliveries = { state with agenda } ∧
      DeliveriesOf number agenda := by
  induction places generalizing state with
  | nil => exact ⟨state.agenda, rfl, listed⟩
  | cons place rest induction =>
      simp only [planDeliveries, List.foldl_cons] at induction ⊢
      split
      · rename_i due _
        have planned : DeliveriesOf number (state.plan due (.deliveryDue number place)).agenda := by
          intro entry among
          rcases List.mem_cons.1 ((state.plan_agenda due _).mem_iff.1 among) with new | earlier
          · exact ⟨place, by rw [new]⟩
          · exact listed entry earlier
        exact induction _ planned
      · exact induction _ listed

/-- The router changes nothing but the services, and tells nothing. -/
theorem runRouter_eq (state : State) :
    ∃ router services, state.runRouter = { state with router, services } ∧
      Services.SameLedger state.services services := by
  unfold runRouter
  split
  · exact ⟨state.router, state.services, rfl, .refl _⟩
  · rename_i receiver isRouter
    exact ⟨_, _, rfl, Services.routeWaiting_sameLedger _ _⟩

/-! ## Deliveries that have all ended -/

theorem map_of_outcomes? {deliveries : List (WebhookTarget × DeliveryPhase)}
    {outcomes : List Webhook.DeliveryOutcome} (ended : outcomes? deliveries = some outcomes) :
    deliveries.map Prod.snd = outcomes.map DeliveryPhase.ended := by
  induction deliveries generalizing outcomes with
  | nil =>
      cases ended
      rfl
  | cons delivery rest induction =>
      rcases delivery with ⟨target, phase⟩
      simp only [outcomes?] at ended induction
      rw [List.mapM_cons] at ended
      rcases Option.bind_eq_some_iff.1 ended with ⟨outcome, first, ended⟩
      rcases Option.bind_eq_some_iff.1 ended with ⟨others, later, ended⟩
      cases ended
      rw [List.map_cons, List.map_cons, induction later]
      cases phase with
      | ended other =>
          cases first
          rfl
      | _ => cases first

/-- The deliveries of an event, all ended: the exchanges there were and what they came to. -/
structure Completed (setting : Setting) (event : TriggerEvent) (targets : List WebhookTarget)
    (before : State) (exchanges : List Exchange) (outcomes : List Webhook.DeliveryOutcome)
    (after : State) : Prop where
  calls : after.calls = before.calls ++ exchanges.map Exchange.call
  /-- Each request is made for a target, and signed for it. -/
  made : ∀ exchange ∈ exchanges, exchange.Made setting event targets
  /-- Each receiver gives its replies in order. -/
  replied : ∀ url, repliesOf url exchanges =
    (Script.replies usualReply (repliesOf url exchanges).length
      (before.receivers.getD url [])).1
  /-- Each target has one outcome. -/
  each : outcomes.length = targets.length
  /-- The outcome is what the policy makes of the results of the target's own attempts, and counts
  them. -/
  outcome : ∀ (place : Nat) (outcome : Webhook.DeliveryOutcome), outcomes[place]? = some outcome →
    setting.policy.after? (resultsAt place exchanges) = some (.finished outcome) ∧
      outcome.attempts = (attemptsAt place exchanges).length

theorem Course.completed {setting : Setting} {event : TriggerEvent} {targets : List WebhookTarget}
    {origin state : State} {exchanges : List Exchange}
    {deliveries : List (WebhookTarget × DeliveryPhase)} {outcomes : List Webhook.DeliveryOutcome}
    (course : Course setting event targets origin exchanges deliveries state)
    (ended : outcomes? deliveries = some outcomes) :
    Completed setting event targets origin exchanges outcomes state where
  calls := course.calls
  made := course.made
  replied url := by
    rw [course.replied url]
  each := by
    have lengths := congrArg List.length (map_of_outcomes? ended)
    rw [List.length_map, List.length_map] at lengths
    rw [← lengths, ← course.sentTo, List.length_map]
  outcome place outcome isOutcome := by
    have phases := congrArg (fun phases => phases[place]?) (map_of_outcomes? ended)
    simp only [List.getElem?_map] at phases
    rw [isOutcome, Option.map_some, Option.map_eq_some_iff] at phases
    rcases phases with ⟨⟨target, phase⟩, get, isEnded⟩
    have reached := course.reached place target phase get
    dsimp only at isEnded
    rw [isEnded] at reached
    have counts := Webhook.RetryPolicy.after?_counts _ _ _ reached
    refine ⟨reached, counts.trans ?_⟩
    rw [resultsAt, List.length_map]

/-! ## The run of a dispatch -/

section Runs

variable {setting : Setting} {errand : Errand} {dispatch : Dispatch} {origin : State}
  {told : Services}

/-- A dispatch that is alone under way. -/
structure Underway (setting : Setting) (errand : Errand) (dispatch : Dispatch) (origin : State)
    (told : Services) (exchanges : List Exchange)
    (deliveries : List (WebhookTarget × DeliveryPhase)) (state : State) : Prop where
  course : Course setting dispatch.event dispatch.webhooks origin exchanges deliveries state
  services : Services.SameLedger told state.services
  jobs : state.jobs = [{ errand, dispatch, deliveries }]
  agenda : DeliveriesOf errand.number state.agenda
  planned : Job.Planned state.agenda { errand, dispatch, deliveries }
  reports : state.dispatchReports = []

/-- The report of a dispatch whose deliveries had some outcomes. -/
def reportOf (dispatch : Dispatch) (outcomes : List Webhook.DeliveryOutcome) : DispatchReport :=
  { dispatch.report with
    webhooksDelivered := dispatch.report.webhooksDelivered +
      outcomes.countP (fun outcome => outcome.error.isNone)
    webhooksFailed := dispatch.report.webhooksFailed +
      outcomes.countP (fun outcome => outcome.error.isSome) }

/-- A dispatch that has ended. -/
structure Finished (setting : Setting) (errand : Errand) (dispatch : Dispatch) (origin : State)
    (told : Services) (exchanges : List Exchange) (outcomes : List Webhook.DeliveryOutcome)
    (state : State) : Prop where
  completed : Completed setting dispatch.event dispatch.webhooks origin exchanges outcomes state
  ledger : state.services.ledger =
    { told.ledger with
      deliveries := told.ledger.deliveries ++ told.taken .recordDelivery
        (List.zipWith (fun target outcome => dispatch.event.audit target outcome setting.calendar)
          dispatch.webhooks outcomes) }
  reports : state.dispatchReports = [(errand.number, reportOf dispatch outcomes)]

theorem Completed.of_calls {event : TriggerEvent} {targets : List WebhookTarget} {state : State}
    {exchanges : List Exchange} {outcomes : List Webhook.DeliveryOutcome}
    (completed : Completed setting event targets origin exchanges outcomes state) {after : State}
    (calls : after.calls = state.calls) :
    Completed setting event targets origin exchanges outcomes after :=
  { completed with calls := calls.trans completed.calls }

theorem Underway.runRouter {exchanges : List Exchange}
    {deliveries : List (WebhookTarget × DeliveryPhase)} {state : State}
    (underway : Underway setting errand dispatch origin told exchanges deliveries state) :
    Underway setting errand dispatch origin told exchanges deliveries state.runRouter ∧
      state.runRouter.agenda = state.agenda := by
  rcases state.runRouter_eq with ⟨router, services, isRouted, same⟩
  rw [isRouted]
  exact ⟨⟨underway.course.of_same rfl rfl, underway.services.trans same, underway.jobs,
    underway.agenda, underway.planned, underway.reports⟩, rfl⟩

theorem Finished.runRouter {exchanges : List Exchange} {outcomes : List Webhook.DeliveryOutcome}
    {state : State}
    (ended : Finished setting errand dispatch origin told exchanges outcomes state) :
    Finished setting errand dispatch origin told exchanges outcomes state.runRouter := by
  rcases state.runRouter_eq with ⟨router, services, isRouted, same⟩
  rw [isRouted]
  exact ⟨ended.completed.of_calls rfl, same.ledger.trans ended.ledger, ended.reports⟩

/-- A dispatch, the deliveries of which were carried on at some places, ends or goes on. -/
theorem settleJob_result (ungrouped : errand.group = none) (dispatch : Dispatch) (state : State)
    {exchanges : List Exchange} {deliveries : List (WebhookTarget × DeliveryPhase)}
    (course : Course setting dispatch.event dispatch.webhooks origin exchanges deliveries state)
    (services : Services.SameLedger told state.services)
    (others : (state.withoutJob errand.number).jobs = [])
    (agenda : DeliveriesOf errand.number state.agenda) (reports : state.dispatchReports = [])
    (places : List Nat)
    (listed : ∀ (place : Nat) (delivery : WebhookTarget × DeliveryPhase) (due : Nat),
      place ∉ places → deliveries[place]? = some delivery → delivery.2.due? = some due →
        (due, Task.deliveryDue errand.number place) ∈ state.agenda) :
    let after := state.settleJob setting { errand, dispatch, deliveries } places
    (∃ outcomes, Finished setting errand dispatch origin told exchanges outcomes after) ∨
      Underway setting errand dispatch origin told exchanges deliveries after ∧
        (places = [] → after.agenda = state.agenda) := by
  have lives : ∀ delivery ∈ deliveries, delivery.2.Lives := by
    intro delivery among crashed
    rcases List.mem_iff_getElem?.1 among with ⟨place, get⟩
    have reached := course.reached place delivery.1 delivery.2 get
    rw [crashed] at reached
    exact reached
  unfold settleJob
  dsimp only
  split
  · rename_i outcomes ended
    have completed := course.completed ended
    rcases state.services.finishDispatch_ledger dispatch completed.each setting.calendar with
      ⟨report, ledger⟩
    rw [services.ledger, Services.taken_of_down services.down] at ledger
    simp only [endErrand]
    rw [ungrouped]
    refine .inl ⟨outcomes, completed.of_calls rfl, ledger, ?_⟩
    simp only [withoutJob, reportDispatch]
    rw [reports, report]
    rfl
  · rename_i under
    refine .inr ?_
    rw [others]
    rcases planDeliveries_eq
      { state.withoutJob errand.number with jobs := [] ++ [{ errand, dispatch, deliveries }] }
      errand.number places deliveries agenda with ⟨planned, isPlanned, delivering⟩
    have stillPlanned := planned_of_planDeliveries
      { state.withoutJob errand.number with jobs := [] ++ [{ errand, dispatch, deliveries }] }
      { errand, dispatch, deliveries } lives under listed
    dsimp only at stillPlanned
    rw [isPlanned] at stillPlanned
    refine ⟨?_, ?_⟩
    · rw [isPlanned]
      exact ⟨course.of_same rfl rfl, services, rfl, delivering, stillPlanned, reports⟩
    · rintro rfl
      rfl

/-- What comes up on the agenda carries the dispatch on: it ends, or it has fewer moves left, or one
thing less is on the agenda. -/
theorem Underway.step (ungrouped : errand.group = none) {exchanges : List Exchange}
    {deliveries : List (WebhookTarget × DeliveryPhase)} {state : State}
    (underway : Underway setting errand dispatch origin told exchanges deliveries state) :
    ∃ next more, state.step? setting none = some next ∧
      ((∃ outcomes,
          Finished setting errand dispatch origin told (exchanges ++ more) outcomes next) ∨
        ∃ carried,
          Underway setting errand dispatch origin told (exchanges ++ more) carried next ∧
            Prod.Lex (· < ·) (· < ·) (movesLeft setting carried, next.agenda.length)
              (movesLeft setting deliveries, state.agenda.length)) := by
  have occupied : state.agenda ≠ [] := by
    rcases underway.planned.goesOn with ⟨delivery, among, goesOn⟩
    rcases Option.isSome_iff_exists.1 goesOn with ⟨due, isDue⟩
    rcases List.mem_iff_getElem?.1 among with ⟨place, get⟩
    exact List.ne_nil_of_mem (underway.planned.listed place delivery due get isDue)
  rcases List.exists_cons_of_ne_nil occupied with ⟨⟨due, task⟩, rest, isAgenda⟩
  rcases underway.agenda (due, task) (by rw [isAgenda]; exact List.mem_cons_self) with
    ⟨place, isDelivery⟩
  dsimp only at isDelivery
  subst isDelivery
  let now : State := { state with agenda := rest, time := max state.time due }
  have stepped : state.step? setting none =
      some (now.carryOnJob setting errand.number place).runRouter := by
    unfold step?
    rw [isAgenda]
    rfl
  have found : now.jobs.find? (fun job => job.errand.number == errand.number) =
      some { errand, dispatch, deliveries } := by
    have jobs : now.jobs = [{ errand, dispatch, deliveries }] := underway.jobs
    rw [jobs, List.find?_cons_of_pos]
    exact beq_self_eq_true errand.number
  have carries (delivery : WebhookTarget × DeliveryPhase) (get : deliveries[place]? = some delivery)
      (isDue : delivery.2.due? = some due) :
      place ∈ (now.placesToCarryOn { errand, dispatch, deliveries } place).filter
        (now.duePlaces deliveries).contains := by
    have inJob : ({ errand, dispatch, deliveries } : Job).deliveries[place]? = some delivery := get
    have reached : due ≤ now.time := Nat.le_max_right _ _
    exact mem_placesToCarryOn inJob isDue reached
  have allDue : ∀ other ∈ (now.placesToCarryOn { errand, dispatch, deliveries } place).filter
      (now.duePlaces deliveries).contains, other ∈ now.duePlaces deliveries :=
    fun other among => List.contains_iff_mem.1 (List.mem_filter.1 among).2
  rw [stepped]
  unfold carryOnJob
  rw [found]
  dsimp only
  generalize (now.placesToCarryOn { errand, dispatch, deliveries } place).filter
    (now.duePlaces deliveries).contains = places at carries allDue ⊢
  have course : Course setting dispatch.event dispatch.webhooks origin exchanges deliveries now :=
    underway.course.of_same rfl rfl
  rcases course.carryOnAll places with ⟨more, carried, isCarried, later⟩
  have delivers := (deliveryFrame_delivers setting dispatch.event).carryOnAll places deliveries now
  rcases carryOnAll_lives setting dispatch.event places underway.planned.lives isCarried with
    ⟨-, same⟩
  rcases carryOnAll_movesLeft setting dispatch.event places isCarried with ⟨noMore, fewer⟩
  generalize State.carryOnAll setting dispatch.event places deliveries now = result
    at isCarried later delivers ⊢
  rcases result with ⟨_, after⟩
  dsimp only at isCarried later delivers ⊢
  subst isCarried
  have agenda : after.agenda = rest := delivers.agenda
  have jobs : after.jobs = [{ errand, dispatch, deliveries }] := delivers.jobs.trans underway.jobs
  have settled := settleJob_result ungrouped dispatch after later
    (underway.services.trans delivers.services)
    (by simp [withoutJob, jobs])
    (by
      intro entry among
      rw [agenda] at among
      exact underway.agenda entry (by rw [isAgenda]; exact List.mem_cons_of_mem _ among))
    (delivers.reports.trans underway.reports) places
    (by
      intro other delivery whenDue absent get isDue
      rw [same other absent] at get
      rw [agenda]
      have split : state.agenda = [] ++ (due, .deliveryDue errand.number place) :: rest := isAgenda
      exact underway.planned.listed_of_take split carries other delivery whenDue absent get isDue)
  refine ⟨_, more, rfl, ?_⟩
  rcases settled with ⟨outcomes, ended⟩ | ⟨goesOn, unplanned⟩
  · exact .inl ⟨outcomes, ended.runRouter⟩
  · rcases goesOn.runRouter with ⟨routed, sameAgenda⟩
    refine .inr ⟨carried, routed, ?_⟩
    rw [sameAgenda]
    rcases Nat.lt_or_eq_of_le noMore with less | equal
    · exact .left _ _ less
    · rw [equal]
      apply Prod.Lex.right
      have none : places = [] := by
        rcases places with _ | ⟨first, others⟩
        · rfl
        · rcases mem_duePlaces.1 (allDue first List.mem_cons_self) with
            ⟨delivery, due, get, isDue, reached⟩
          exact absurd equal
            (Nat.ne_of_lt (fewer first rfl delivery due get isDue reached))
      rw [unplanned none, agenda, isAgenda]
      exact Nat.lt_succ_self _

theorem runUntil_of_happened {happened : State → Bool} {until? : Option Nat} {state : State}
    (isDone : happened state = true) (steps : Nat) :
    runUntil setting until? happened steps state = state := by
  cases steps with
  | zero => rfl
  | succ steps => rw [runUntil, if_pos isDone]

theorem runUntil_of_step {happened : State → Bool} {until? : Option Nat} {state next : State}
    (notDone : happened state = false) (stepped : state.step? setting until? = some next)
    (steps : Nat) :
    runUntil setting until? happened (steps + 1) state =
      runUntil setting until? happened steps next := by
  rw [runUntil, if_neg (by rw [notDone]; exact Bool.false_ne_true), stepped]

/-- Whether an errand has been reported. -/
def isReported (number : Nat) (state : State) : Bool :=
  state.dispatchReports.any (fun entry => entry.1 == number)

theorem Underway.isReported {exchanges : List Exchange}
    {deliveries : List (WebhookTarget × DeliveryPhase)} {state : State}
    (underway : Underway setting errand dispatch origin told exchanges deliveries state) :
    state.isReported errand.number = false := by
  rw [State.isReported, underway.reports]
  rfl

theorem Finished.isReported {exchanges : List Exchange} {outcomes : List Webhook.DeliveryOutcome}
    {state : State}
    (ended : Finished setting errand dispatch origin told exchanges outcomes state) :
    state.isReported errand.number = true := by
  rw [State.isReported, ended.reports]
  simp

/-- A dispatch that is alone under way ends, and then nothing more is done. -/
theorem Underway.ends (ungrouped : errand.group = none) {exchanges : List Exchange}
    {deliveries : List (WebhookTarget × DeliveryPhase)} {state : State}
    (underway : Underway setting errand dispatch origin told exchanges deliveries state) :
    ∃ more outcomes final needed,
      Finished setting errand dispatch origin told (exchanges ++ more) outcomes final ∧
      ∀ steps, needed ≤ steps →
        runUntil setting none (State.isReported errand.number) steps state = final := by
  rcases underway.step ungrouped with
    ⟨next, more, stepped, ⟨outcomes, ended⟩ | ⟨carried, goesOn, less⟩⟩
  · refine ⟨more, outcomes, next, 1, ended, ?_⟩
    intro steps enough
    rcases Nat.exists_eq_add_of_le' enough with ⟨fewer, rfl⟩
    rw [runUntil_of_step underway.isReported stepped, runUntil_of_happened ended.isReported]
  · rcases goesOn.ends ungrouped with ⟨later, outcomes, final, needed, ended, reaches⟩
    rw [List.append_assoc] at ended
    refine ⟨more ++ later, outcomes, final, needed + 1, ended, ?_⟩
    intro steps enough
    rcases Nat.exists_eq_add_of_le' enough with ⟨fewer, rfl⟩
    rw [← Nat.add_assoc, runUntil_of_step underway.isReported stepped]
    exact reaches _ (Nat.le_add_left _ _)
termination_by (movesLeft setting deliveries, state.agenda.length)
decreasing_by exact less

end Runs

/-! ## A dispatch by itself -/

/-- Whether nothing is under way. -/
structure Idle (state : State) : Prop where
  agenda : state.agenda = []
  jobs : state.jobs = []
  reports : state.dispatchReports = []

/-- A dispatch that begins makes the first attempts and notifies its users; then it ends or is under
way. -/
theorem beginJob_result (setting : Setting) (errand : Errand) (ungrouped : errand.group = none)
    {state : State} (idle : state.Idle) (survives : state.Survives) (dispatch : Dispatch) :
    ∃ told exchanges,
      told.ledger =
          { state.services.ledger with
            notifications := state.services.ledger.notifications ++
              state.services.taken .insertNotification
                (dispatch.users.map dispatch.event.notification) } ∧
        told.down = state.services.down ∧
        let notified : Dispatch := { dispatch with report := { dispatch.report with
          notifications := (state.services.taken .insertNotification dispatch.users).length } }
        (∃ outcomes, Finished setting errand notified state told exchanges outcomes
          (state.beginJob setting errand dispatch)) ∨
        ∃ deliveries, Underway setting errand notified state told exchanges deliveries
          (state.beginJob setting errand dispatch) := by
  have course := startDeliveries_course setting survives dispatch
  have frame := deliveryFrame_delivers setting dispatch.event
  have delivers := frame.startDeliveries state
  unfold beginJob
  dsimp only
  generalize state.startDeliveries setting dispatch = start at course delivers ⊢
  rcases start with ⟨started, begun⟩
  dsimp only at course delivers ⊢
  rcases course.carryOnAll (List.range started.length) with ⟨more, carried, isCarried, later⟩
  have carries := delivers.trans (frame.carryOnAll (List.range started.length) started begun)
  generalize State.carryOnAll setting dispatch.event (List.range started.length) started begun
    = result at isCarried later carries ⊢
  rcases result with ⟨_, after⟩
  dsimp only at isCarried later carries ⊢
  subst isCarried
  rcases after.services.notifyUsers_ledger dispatch with ⟨notified, ledger, down⟩
  rw [carries.services.ledger, Services.taken_of_down carries.services.down] at ledger
  rw [Services.taken_of_down carries.services.down] at notified
  rw [notified]
  generalize (after.services.notifyUsers dispatch).2 = told at ledger down ⊢
  refine ⟨told, [] ++ more, ledger, down.trans carries.services.down, ?_⟩
  have noAgenda : after.agenda = [] := carries.agenda.trans idle.agenda
  have noJobs : after.jobs = [] := carries.jobs.trans idle.jobs
  have lengths : carried.length = started.length := by
    rw [← List.length_map Prod.fst, later.sentTo, ← course.sentTo, List.length_map]
  have settled := settleJob_result ungrouped
    { dispatch with report := { dispatch.report with
        notifications := (state.services.taken .insertNotification dispatch.users).length } }
    { after with services := told } (later.of_same rfl rfl) (.refl told)
    (by simp [withoutJob, noJobs])
    (by
      intro entry among
      rw [noAgenda] at among
      cases among)
    (carries.reports.trans idle.reports) (List.range started.length)
    (by
      intro place delivery due absent get
      rw [List.mem_range, ← lengths, Nat.not_lt] at absent
      rw [List.getElem?_eq_none absent] at get
      cases get)
  rcases settled with ended | ⟨goesOn, -⟩
  · exact .inl ended
  · exact .inr ⟨carried, goesOn⟩

/-- A dispatch that begins when nothing is under way ends. -/
theorem beginJob_ends (setting : Setting) (errand : Errand) (ungrouped : errand.group = none)
    {state : State} (idle : state.Idle) (survives : state.Survives) (dispatch : Dispatch) :
    ∃ told exchanges outcomes final needed,
      told.ledger =
          { state.services.ledger with
            notifications := state.services.ledger.notifications ++
              state.services.taken .insertNotification
                (dispatch.users.map dispatch.event.notification) } ∧
        told.down = state.services.down ∧
        Finished setting errand
          { dispatch with report := { dispatch.report with
            notifications := (state.services.taken .insertNotification dispatch.users).length } }
          state told exchanges outcomes final ∧
        ∀ steps, needed ≤ steps → runUntil setting none (State.isReported errand.number) steps
          (state.beginJob setting errand dispatch) = final := by
  rcases beginJob_result setting errand ungrouped idle survives dispatch with
    ⟨told, exchanges, ledger, down, ⟨outcomes, ended⟩ | ⟨deliveries, underway⟩⟩
  · exact ⟨told, exchanges, outcomes, _, 0, ledger, down, ended,
      fun steps _ => runUntil_of_happened ended.isReported steps⟩
  · rcases underway.ends ungrouped with ⟨more, outcomes, final, needed, ended, reaches⟩
    exact ⟨told, exchanges ++ more, outcomes, final, needed, ledger, down, ended, reaches⟩

end State

end CandleAlerts.Simulation
