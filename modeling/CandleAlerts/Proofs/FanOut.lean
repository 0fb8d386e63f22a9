import CandleAlerts.Proofs.DispatchRuns
import CandleAlerts.Proofs.DispatchTargets

/-!
A dispatch fans out completely and only once.

An event that is new is recorded and published once, with its bots. Each webhook has one delivery,
which is audited with its outcome, and each user has one notification. What a target gets depends on
what comes of its own attempts alone.
-/

namespace CandleAlerts.Simulation

/-- What a receiver gets of a request. -/
def Call.content (call : Call) : String × String × String × String :=
  (call.url, call.eventId, call.signature, call.body)

/-- Requests for one target differ in nothing but the time at which they are made. -/
theorem Call.Asks.content {first second : Call} {mac : Mac} {event : TriggerEvent}
    {target : WebhookTarget} {timestamp : Int} (asks : first.Asks mac event target timestamp)
    (asksToo : second.Asks mac event target timestamp) : first.content = second.content := by
  unfold Call.content
  rw [asks.url, asksToo.url, asks.eventId, asksToo.eventId, asks.signature, asksToo.signature,
    asks.body, asksToo.body]

namespace State

/-! ## A dispatch by itself -/

/-- Whether a dispatch ends with a report, in however many steps beyond those that it needs. -/
def DispatchesTo (setting : Setting) (before : State) (alert : Alert) (event : TriggerEvent)
    (report : DispatchReport) (after : State) : Prop :=
  ∃ needed, ∀ steps, needed ≤ steps →
    before.dispatchOnce setting steps alert event = (some report, after)

/-- What a dispatch of an event to its targets comes to: what each part of the services that works
takes of it, the attempts at its deliveries, and the report. -/
structure FansOut (setting : Setting) (event : TriggerEvent) (targets : Targets) (before : State)
    (exchanges : List Exchange) (outcomes : List Webhook.DeliveryOutcome) (report : DispatchReport)
    (after : State) : Prop where
  recorded : after.services.store.triggers = before.services.store.triggers ++
    before.services.taken .recordTrigger [event]
  published : after.services.published = before.services.published ++
    before.services.taken .publish [event.toMessage]
  notified : after.services.store.notifications = before.services.store.notifications ++
    before.services.taken .insertNotification (targets.users.map event.notification)
  audited : after.services.store.deliveries = before.services.store.deliveries ++
    before.services.taken .recordDelivery
      (List.zipWith (fun target outcome => event.audit target outcome setting.calendar)
        targets.webhooks outcomes)
  delivered : Completed setting event targets.webhooks before exchanges outcomes after
  report : report =
    { duplicate := false
      published := before.services.works .publish
      webhooksDelivered := outcomes.countP (fun outcome => outcome.error.isNone)
      webhooksFailed := outcomes.countP (fun outcome => outcome.error.isSome)
      notifications := (before.services.taken .insertNotification targets.users).length }

theorem dispatchOnce_fansOut (setting : Setting) {state : State} (idle : state.Idle)
    (survives : state.Survives) (alert : Alert) {event : TriggerEvent}
    (new : state.services.works .claim = true →
      state.services.claims.holds (dispatchKey event.eventId) 0 = false) :
    let targets := Targets.of alert
      (state.services.registry.activeSubscriptions event.conditionId) setting.defaultSecret
    ∃ exchanges outcomes report after, DispatchesTo setting state alert event report after ∧
      FansOut setting (event.publishedFor targets.bots setting.calendar) targets state exchanges
        outcomes report after := by
  intro targets
  let errand : Errand := { number := state.numbers, alert, event, group := none }
  rcases Services.beginDispatch_of_new new dispatchMemory_ends alert setting.defaultSecret
    setting.calendar with
    ⟨claims, begun⟩
  rcases Services.beginClaimed_ledger { state.services with claims } alert event
    setting.defaultSecret setting.calendar with ⟨isDispatch, toldFirst, down⟩
  generalize Services.beginClaimed { state.services with claims } alert event
    setting.defaultSecret setting.calendar = result at begun isDispatch toldFirst down
  rcases result with ⟨dispatch, services⟩
  dsimp only at begun isDispatch toldFirst down
  let start : State := { state with numbers := state.numbers + 1, services }
  have began : { state with numbers := state.numbers + 1 }.beginErrand setting errand =
      start.beginJob setting errand dispatch := by
    simp only [beginErrand]
    rw [begun]
  have startIdle : start.Idle := ⟨idle.agenda, idle.jobs, idle.reports⟩
  have startSurvives : start.Survives := survives
  rcases beginJob_ends setting errand rfl startIdle startSurvives dispatch with
    ⟨told, exchanges, outcomes, final, needed, toldThen, stillDown, ended, reaches⟩
  have dispatched (steps : Nat) : state.dispatchOnce setting steps alert event =
      (((runUntil setting none (State.isReported errand.number) steps
          ({ state with numbers := state.numbers + 1 }.beginErrand setting
            errand)).dispatchReports.find? (fun entry => entry.1 == errand.number)).map Prod.snd,
        { runUntil setting none (State.isReported errand.number) steps
            ({ state with numbers := state.numbers + 1 }.beginErrand setting errand) with
          dispatchReports := [] }) := rfl
  subst isDispatch
  have startTaken {α : Type} (part : ServicePart) (given : List α) :
      start.services.taken part given = state.services.taken part given :=
    Services.taken_of_down down part given
  have toldTaken {α : Type} (part : ServicePart) (given : List α) :
      told.taken part given = state.services.taken part given :=
    Services.taken_of_down (stillDown.trans down) part given
  have startLedger : start.services.ledger = _ := toldFirst
  have ledger := ended.ledger
  rw [toldThen, startLedger, toldTaken, startTaken] at ledger
  refine ⟨exchanges, outcomes,
    { duplicate := false
      published := state.services.works .publish
      webhooksDelivered := outcomes.countP (fun outcome => outcome.error.isNone)
      webhooksFailed := outcomes.countP (fun outcome => outcome.error.isSome)
      notifications := (state.services.taken .insertNotification targets.users).length },
    { final with dispatchReports := [] }, ⟨needed, ?_⟩, ?_⟩
  · intro steps enough
    rw [dispatched, began, reaches steps enough, ended.reports, List.find?_cons_of_pos]
    · simp only [Option.map_some, reportOf, startTaken, Nat.zero_add]
      rfl
    · exact beq_self_eq_true errand.number
  · constructor
    case recorded => exact congrArg Ledger.triggers ledger
    case published => exact congrArg Ledger.published ledger
    case notified => exact congrArg Ledger.notifications ledger
    case audited => exact congrArg Ledger.deliveries ledger
    case delivered =>
      have completed := ended.completed
      exact ⟨completed.calls, completed.made, completed.replied, completed.each, completed.outcome⟩
    case report => rfl

/-! ## Targets apart -/

section Apart

variable {setting : Setting} {event : TriggerEvent} {targets : List WebhookTarget}

/-- The requests that a target gets. -/
def requestsAt (place : Nat) (exchanges : List Exchange) :
    List (String × String × String × String) :=
  (attemptsAt place exchanges).map (fun exchange => exchange.call.content)

/-- Whether a target is the only one at its address. -/
def Alone (targets : List WebhookTarget) (place : Nat) (target : WebhookTarget) : Prop :=
  targets[place]? = some target ∧
    ∀ other another, targets[other]? = some another → another.url = target.url → other = place

theorem mem_attemptsAt {place : Nat} {exchanges : List Exchange} {exchange : Exchange} :
    exchange ∈ attemptsAt place exchanges ↔ exchange ∈ exchanges ∧ exchange.place = place := by
  rw [attemptsAt, List.mem_filter, beq_iff_eq]

/-- The requests at one place are all alike, so they are told apart by their number. -/
theorem requestsAt_eq {exchanges others : List Exchange}
    (made : ∀ exchange ∈ exchanges, exchange.Made setting event targets)
    (othersMade : ∀ exchange ∈ others, exchange.Made setting event targets) {place : Nat}
    (same : (attemptsAt place exchanges).length = (attemptsAt place others).length) :
    requestsAt place exchanges = requestsAt place others := by
  apply List.ext_getElem
  · rw [requestsAt, requestsAt, List.length_map, List.length_map, same]
  · intro index within withinToo
    rw [requestsAt, List.length_map] at within withinToo
    simp only [requestsAt, List.getElem_map]
    have first := mem_attemptsAt.1 (List.getElem_mem within)
    have second := mem_attemptsAt.1 (List.getElem_mem withinToo)
    rcases (made _ first.1).asks with ⟨target, isTarget, asks⟩
    rcases (othersMade _ second.1).asks with ⟨another, isAnother, asksToo⟩
    rw [first.2] at isTarget
    rw [second.2, isTarget] at isAnother
    cases isAnother
    exact asks.content asksToo

/-- The receiver of a target that is alone at its address replies to that target only. -/
theorem repliesOf_of_alone {exchanges : List Exchange}
    (made : ∀ exchange ∈ exchanges, exchange.Made setting event targets) {place : Nat}
    {target : WebhookTarget} (alone : Alone targets place target) :
    repliesOf target.url exchanges = (attemptsAt place exchanges).map Exchange.reply := by
  have same : exchanges.filter (fun exchange => exchange.call.url == target.url) =
      attemptsAt place exchanges := by
    apply List.filter_congr
    intro exchange among
    rcases (made exchange among).asks with ⟨another, isAnother, asks⟩
    rw [Bool.eq_iff_iff, beq_iff_eq, beq_iff_eq, asks.url]
    constructor
    · exact alone.2 exchange.place another isAnother
    · intro isPlace
      rw [isPlace, alone.1] at isAnother
      cases isAnother
      rfl
  rw [repliesOf, same]

theorem resultsAt_eq_filterMap {exchanges : List Exchange}
    (made : ∀ exchange ∈ exchanges, exchange.Made setting event targets) (place : Nat) :
    resultsAt place exchanges = ((attemptsAt place exchanges).map Exchange.reply).filterMap
      (fun reply => (attemptResult? setting reply).map Prod.snd) := by
  rw [resultsAt, List.filterMap_map, ← List.filterMap_eq_map]
  apply List.filterMap_congr
  intro exchange among
  exact (made exchange (mem_attemptsAt.1 among).1).results.symm

/-- A target has the same outcome and gets the same requests whenever the same comes of its own
attempts, as far as they go. -/
theorem Completed.apart_of_results {before after start final : State}
    {exchanges others : List Exchange} {outcomes otherOutcomes : List Webhook.DeliveryOutcome}
    (completed : Completed setting event targets before exchanges outcomes after)
    (otherwise : Completed setting event targets start others otherOutcomes final)
    {place : Nat} {target : WebhookTarget} (isTarget : targets[place]? = some target)
    {answers : List Webhook.AttemptResult} (answered : resultsAt place exchanges <+: answers)
    (answeredToo : resultsAt place others <+: answers) :
    otherOutcomes[place]? = outcomes[place]? ∧
      requestsAt place others = requestsAt place exchanges := by
  have within : place < targets.length := (List.getElem?_eq_some_iff.1 isTarget).1
  have isOutcome := List.getElem?_eq_getElem (completed.each ▸ within)
  have isOther := List.getElem?_eq_getElem (otherwise.each ▸ within)
  have ended := (completed.outcome place _ isOutcome).1
  have otherEnded := (otherwise.outcome place _ isOther).1
  have same : resultsAt place others = resultsAt place exchanges := by
    rcases List.prefix_or_prefix_of_prefix answered answeredToo with fewer | more
    · exact Webhook.RetryPolicy.eq_of_prefix_of_finished ended fewer otherEnded
    · exact (Webhook.RetryPolicy.eq_of_prefix_of_finished otherEnded more ended).symm
  constructor
  · rw [same, ended] at otherEnded
    rw [isOutcome, isOther, Webhook.DeliveryStep.finished.inj (Option.some.inj otherEnded)]
  · have lengths := congrArg List.length same
    rw [resultsAt, resultsAt, List.length_map, List.length_map] at lengths
    exact requestsAt_eq otherwise.made completed.made lengths

/-- What comes of the attempts for a target that is alone at its address is what its receiver
replies, in order. -/
theorem Completed.results_prefix {before after : State} {exchanges : List Exchange}
    {outcomes : List Webhook.DeliveryOutcome}
    (completed : Completed setting event targets before exchanges outcomes after)
    {place : Nat} {target : WebhookTarget} (alone : Alone targets place target) {count : Nat}
    (enough : (repliesOf target.url exchanges).length ≤ count) :
    resultsAt place exchanges <+:
      (Script.replies usualReply count (before.receivers.getD target.url [])).1.filterMap
        (fun reply => (attemptResult? setting reply).map Prod.snd) := by
  rw [resultsAt_eq_filterMap completed.made, ← repliesOf_of_alone completed.made alone,
    completed.replied target.url]
  exact (Script.replies_prefix usualReply _ enough).filterMap _

/-- What a target gets that is alone at its address depends on the replies of its receiver alone. -/
theorem Completed.apart {before after start final : State} {exchanges others : List Exchange}
    {outcomes otherOutcomes : List Webhook.DeliveryOutcome}
    (completed : Completed setting event targets before exchanges outcomes after)
    (otherwise : Completed setting event targets start others otherOutcomes final)
    {place : Nat} {target : WebhookTarget} (alone : Alone targets place target)
    (sameScript : start.receivers.getD target.url [] = before.receivers.getD target.url []) :
    otherOutcomes[place]? = outcomes[place]? ∧
      requestsAt place others = requestsAt place exchanges := by
  have initial := completed.results_prefix alone
    (Nat.le_max_left _ (repliesOf target.url others).length)
  have otherInitial := otherwise.results_prefix alone
    (Nat.le_max_right (repliesOf target.url exchanges).length _)
  rw [sameScript] at otherInitial
  exact completed.apart_of_results otherwise alone.1 initial otherInitial

end Apart

/-! ## The whole -/

/-- A delivery is delivered or has failed. -/
theorem counts_add (outcomes : List Webhook.DeliveryOutcome) :
    outcomes.countP (fun outcome => outcome.error.isNone) +
      outcomes.countP (fun outcome => outcome.error.isSome) = outcomes.length := by
  rw [List.length_eq_countP_add_countP (fun outcome => outcome.error.isNone)]
  apply congrArg
  apply List.countP_congr
  intro outcome _
  cases outcome.error <;> simp

/-- Dispatching a new event, when nothing else is under way and whatever the receivers reply, ends.
Its targets are those of the alert's action and of the active subscriptions to its condition. The
event is recorded and published once, each user is notified once, and each webhook has a delivery
that is audited once; the report counts each delivery as delivered or as failed. Whatever the other
receivers reply instead, a target has the same outcome and gets the same requests, as long as the
same comes of its own attempts; and so it is when its receiver serves no other target and replies as
before. -/
theorem fans_out_completely_and_once (setting : Setting) {state : State} (idle : state.Idle)
    (survives : state.Survives) (alert : Alert) {event : TriggerEvent}
    (new : state.services.works .claim = true →
      state.services.claims.holds (dispatchKey event.eventId) 0 = false) :
    let subscriptions := (state.services.registry.subscriptionsTo event.conditionId).filter
      Subscription.active
    let targets := Targets.of alert subscriptions setting.defaultSecret
    let told := event.publishedFor targets.bots setting.calendar
    targets.Cover alert subscriptions setting.defaultSecret ∧
      ∃ exchanges outcomes report after,
        DispatchesTo setting state alert event report after ∧
        FansOut setting told targets state exchanges outcomes report after ∧
        report.webhooksDelivered + report.webhooksFailed = targets.webhooks.length ∧
        ∀ receivers, ({ state with receivers } : State).Survives →
          ∃ others otherOutcomes otherReport final,
            DispatchesTo setting { state with receivers } alert event otherReport final ∧
            FansOut setting told targets { state with receivers } others otherOutcomes otherReport
              final ∧
            ∀ place target, targets.webhooks[place]? = some target →
              ((∃ answers, resultsAt place exchanges <+: answers ∧
                  resultsAt place others <+: answers) ∨
                (Alone targets.webhooks place target ∧
                  receivers.getD target.url [] = state.receivers.getD target.url [])) →
              otherOutcomes[place]? = outcomes[place]? ∧
                requestsAt place others = requestsAt place exchanges := by
  intro subscriptions targets told
  refine ⟨Targets.of_cover alert subscriptions setting.defaultSecret, ?_⟩
  rcases dispatchOnce_fansOut setting idle survives alert new with
    ⟨exchanges, outcomes, report, after, dispatches, fansOut⟩
  refine ⟨exchanges, outcomes, report, after, dispatches, fansOut, ?_, ?_⟩
  · rw [fansOut.report]
    exact (counts_add outcomes).trans fansOut.delivered.each
  · intro receivers otherSurvives
    have otherIdle : ({ state with receivers } : State).Idle :=
      ⟨idle.agenda, idle.jobs, idle.reports⟩
    rcases dispatchOnce_fansOut setting otherIdle otherSurvives alert new with
      ⟨others, otherOutcomes, otherReport, final, otherDispatches, otherFansOut⟩
    refine ⟨others, otherOutcomes, otherReport, final, otherDispatches, otherFansOut, ?_⟩
    rintro place target isTarget (⟨answers, answered, answeredToo⟩ | ⟨alone, sameScript⟩)
    · exact fansOut.delivered.apart_of_results otherFansOut.delivered isTarget answered answeredToo
    · exact fansOut.delivered.apart otherFansOut.delivered alone sameScript

/-! An alert with a webhook of its own, and subscriptions of every kind: some users and bots are
named twice, one subscription was given up, and one is to another condition. The receiver of the
subscribed webhook fails once and then refuses. -/

theorem Survives.of_values {state : State}
    (survived : ∀ script ∈ state.receivers.values, ∀ reply ∈ script, reply.answer ≠ .crash) :
    state.Survives := by
  intro url reply among
  unfold Table.getD at among
  cases answered : state.receivers.get? url with
  | none =>
      rw [answered] at among
      cases among
  | some script =>
      rw [answered] at among
      exact survived script ((state.receivers.mem_values_iff script).2 ⟨url, answered⟩) reply among

namespace FanOut

def alert : Alert :=
  { id := "a1", ownerId := "owner", symbol := "BTC", timeframe := .hour
    logic := .conditions [] .all
    fireMode := .perBar, action := .webhook "https://own" none }

def event : TriggerEvent := .of alert ⟨3600, 5, 6, 4, 5, 1⟩ {} ⟨1700000000, 0⟩

def setting : Setting :=
  { scheduler :=
      { interval := 60000, timeframes := [.hour], groupTimeout := 5000, maxConcurrentGroups := 1
        candleLimit := 300, maxDispatches := 1 }
    policy := { maxRetries := 2, backoffBase := 100, timeout := 10000 }
    defaultSecret := "default"
    mac := fun _ _ => []
    calendar := ⟨1700000000, 0⟩
    api :=
      { defaultFireMode := .perBar, timeframes := [.hour], verifier := none, hasMetrics := false
        mac := fun _ _ => [], subscriptionId := fun _ => "" } }

def subscribed (id conditionId : String) (recipient : Recipient) (active : Bool) : Subscription :=
  { id, subscriberId := id, conditionId, recipient, active, lastTriggeredAt := none }

def subscriptions : List Subscription :=
  [subscribed "s1" "a1" (.webhook "https://sub" (some "own")) true,
   subscribed "s2" "a1" (.webhook "https://gone" none) false,
   subscribed "s3" "a1" (.inApp "u2") true, subscribed "s4" "a1" (.bot "b2") true,
   subscribed "s5" "a1" (.inApp "u1") true, subscribed "s6" "a1" (.bot "b1") true,
   subscribed "s7" "a1" (.inApp "u2") true, subscribed "s8" "a1" (.bot "b2") true]

def services : Services :=
  { channel := { capacity := 1 }
    registry :=
      { subscriptions :=
          { entries :=
              [("a1", subscriptions),
               ("a2", [subscribed "s9" "a2" (.webhook "https://other" none) true])]
            ordered := by decide } } }

def start : State :=
  { State.beginning setting services (fun _ _ => none) with
    receivers :=
      { entries := [("https://sub", [{ answer := .status 500 }, { answer := .status 400 }])]
        ordered := by decide } }

theorem survives_start : start.Survives := by
  apply Survives.of_values
  intro script among reply inScript
  obtain rfl := List.mem_singleton.1 among
  simp only [List.mem_cons, List.not_mem_nil, or_false] at inScript
  rcases inScript with rfl | rfl <;> exact ReceiverAnswer.noConfusion

def targets : Targets :=
  { webhooks := [⟨none, "https://own", "default"⟩, ⟨some "s1", "https://sub", "own"⟩]
    users := ["u1", "u2"], bots := ["b1", "b2"] }

theorem targets_cover :
    targets.Cover alert (subscriptions.filter Subscription.active) "default" where
  webhooks := by decide
  users userId := by
    simp [targets, Alert.Notifies, alert, subscriptions, subscribed]
    grind
  usersOnce := by decide
  bots botId := by
    simp [targets, Alert.Instructs, alert, subscriptions, subscribed]
    grind
  botsOnce := by decide

theorem every_kind_is_served :
    start.Idle ∧ start.Survives ∧
      start.services.claims.holds (dispatchKey event.eventId) 0 = false ∧
      ((start.dispatchOnce setting 20 alert event).1.map (fun report =>
        (report.webhooksDelivered, report.webhooksFailed))) = some (1, 1) ∧
      ∃ exchanges outcomes report after, DispatchesTo setting start alert event report after ∧
        FansOut setting (event.publishedFor ["b1", "b2"] setting.calendar) targets start exchanges
          outcomes report after ∧
        report.webhooksDelivered + report.webhooksFailed = 2 ∧ report.notifications = 2 := by
  have idle : start.Idle := ⟨rfl, rfl, rfl⟩
  have new : start.services.claims.holds (dispatchKey event.eventId) 0 = false := by decide +kernel
  have reported : ((start.dispatchOnce setting 20 alert event).1.map (fun report =>
      (report.webhooksDelivered, report.webhooksFailed))) = some (1, 1) := by decide +kernel
  rcases fans_out_completely_and_once setting idle survives_start alert (fun _ => new) with
    ⟨cover, exchanges, outcomes, report, after, dispatches, fansOut, counted, -⟩
  have subscribed : (start.services.registry.subscriptionsTo event.conditionId).filter
      Subscription.active = subscriptions.filter Subscription.active := by decide
  rw [subscribed] at cover fansOut counted
  rw [cover.unique targets_cover] at fansOut counted
  refine ⟨idle, survives_start, new, reported, exchanges, outcomes, report, after, dispatches,
    fansOut, counted, ?_⟩
  rw [fansOut.report]
  rfl

end FanOut

end State

end CandleAlerts.Simulation
