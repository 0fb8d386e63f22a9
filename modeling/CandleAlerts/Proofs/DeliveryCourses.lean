import CandleAlerts.Proofs.DispatchLedger
import CandleAlerts.Proofs.RetryOutcomes
import CandleAlerts.Proofs.SignedDeliveries
import CandleAlerts.Simulation.Dispatches

/-!
How the deliveries of a dispatch go.

Each attempt is an exchange: a request that is signed for its target, and what came of it. The
deliveries of a dispatch share the receivers and the calendar, and their attempts come in any order;
but each receiver gives its replies one after the other, and each delivery goes by the results of
its own attempts alone.
-/

namespace CandleAlerts

theorem set_eq_self {values : List α} {place : Nat} {value : α}
    (get : values[place]? = some value) : values.set place value = values := by
  rcases List.getElem?_eq_some_iff.1 get with ⟨within, rfl⟩
  exact List.set_getElem_self within

namespace Simulation

/-- What a receiver without a script replies. -/
def usualReply : Reply ReceiverAnswer := { answer := .status 200 }

/-! ## Exchanges -/

/-- An attempt at the delivery at a place: the request, the reply, and what came of it. -/
structure Exchange where
  place : Nat
  call : Call
  reply : Reply ReceiverAnswer
  result : Webhook.AttemptResult

namespace Exchange

/-- Whether an exchange is an attempt for its target, with the result of its reply. -/
structure Made (setting : Setting) (event : TriggerEvent) (targets : List WebhookTarget)
    (exchange : Exchange) : Prop where
  asks : ∃ target, targets[exchange.place]? = some target ∧
    exchange.call.Asks setting.mac event target setting.calendar.seconds
  results : (attemptResult? setting exchange.reply).map Prod.snd =
    some exchange.result

end Exchange

/-- The attempts at one delivery, in order. -/
def attemptsAt (place : Nat) (exchanges : List Exchange) : List Exchange :=
  exchanges.filter (fun exchange => exchange.place == place)

/-- The results of one delivery, in order. -/
def resultsAt (place : Nat) (exchanges : List Exchange) : List Webhook.AttemptResult :=
  (attemptsAt place exchanges).map Exchange.result

/-- The replies of one receiver, in order. -/
def repliesOf (url : String) (exchanges : List Exchange) : List (Reply ReceiverAnswer) :=
  (exchanges.filter (fun exchange => exchange.call.url == url)).map Exchange.reply

theorem resultsAt_concat (place : Nat) (exchanges : List Exchange) (exchange : Exchange) :
    resultsAt place (exchanges ++ [exchange]) =
      resultsAt place exchanges ++ (if exchange.place = place then [exchange.result] else []) := by
  unfold resultsAt attemptsAt
  rw [List.filter_append, List.map_append]
  by_cases same : exchange.place = place <;> simp [same]

theorem repliesOf_concat (url : String) (exchanges : List Exchange) (exchange : Exchange) :
    repliesOf url (exchanges ++ [exchange]) =
      repliesOf url exchanges ++ (if exchange.call.url = url then [exchange.reply] else []) := by
  unfold repliesOf
  rw [List.filter_append, List.map_append]
  by_cases same : exchange.call.url = url <;> simp [same]

/-- Whether a phase is what the policy makes of some results. -/
def DeliveryPhase.Reached (policy : Webhook.RetryPolicy) (results : List Webhook.AttemptResult) :
    DeliveryPhase → Prop
  | .pausing _ progress => ∃ wait, policy.after? results = some (.attempt wait progress)
  | .answering _ progress result => ∃ wait earlier, results = earlier ++ [result] ∧
      policy.after? earlier = some (.attempt wait progress)
  | .crashed => False
  | .ended outcome => policy.after? results = some (.finished outcome)

namespace State

/-- Whether every request is survived, whatever the receivers reply. -/
def Survives (state : State) : Prop :=
  ∀ url, ∀ reply ∈ state.receivers.getD url [], reply.answer ≠ .crash

/-! ## What deliveries leave alone -/

/-- What carries deliveries on: it tells nothing, and leaves the clock, the agenda, the jobs and the
reports alone. -/
structure Delivers (before after : State) : Prop where
  services : Services.SameLedger before.services after.services
  time : after.time = before.time
  agenda : after.agenda = before.agenda
  jobs : after.jobs = before.jobs
  reports : after.dispatchReports = before.dispatchReports

namespace Delivers

theorem refl (state : State) : Delivers state state := ⟨.refl _, rfl, rfl, rfl, rfl⟩

theorem trans {first second third : State} (left : Delivers first second)
    (right : Delivers second third) : Delivers first third where
  services := left.services.trans right.services
  time := right.time.trans left.time
  agenda := right.agenda.trans left.agenda
  jobs := right.jobs.trans left.jobs
  reports := right.reports.trans left.reports

end Delivers

theorem receiverReply_delivers (state : State) (url : String) :
    Delivers state (state.receiverReply url).2 := by
  unfold receiverReply
  dsimp only
  split <;> exact ⟨.refl _, rfl, rfl, rfl, rfl⟩

/-- A request was made and is not answered yet. -/
def asking (setting : Setting) (state : State) (event : TriggerEvent) (target : WebhookTarget) :
    State :=
  { state with
    calls := state.calls ++ [request setting event target state]
    services := state.services.count .webhookAttempts 1 }

/-- The receiver decides what comes of an attempt. -/
theorem attempt_eq (setting : Setting) (state : State) (event : TriggerEvent)
    (target : WebhookTarget) (progress : Webhook.DeliveryProgress) :
    state.attempt setting event target progress =
      (match attemptResult? setting
          ((state.asking setting event target).receiverReply target.url).1 with
        | none => .crashed
        | some (duration, result) =>
            .answering (((state.asking setting event target).receiverReply target.url).2.time +
              duration) progress result,
        ((state.asking setting event target).receiverReply target.url).2) := by
  have posted : state.attempt setting event target progress =
      (match attemptResult? setting
          ((state.asking setting event target).receiverReply target.url).1 with
        | none => (.crashed, ((state.asking setting event target).receiverReply target.url).2)
        | some (duration, result) =>
            (.answering (((state.asking setting event target).receiverReply target.url).2.time +
              duration) progress result,
              ((state.asking setting event target).receiverReply target.url).2)) := rfl
  rw [posted]
  split <;> rfl

theorem attempt_delivers (setting : Setting) (state : State) (event : TriggerEvent)
    (target : WebhookTarget) (progress : Webhook.DeliveryProgress) :
    Delivers state (state.attempt setting event target progress).2 := by
  have asked : Delivers state (state.asking setting event target) :=
    ⟨.count _ _ _, rfl, rfl, rfl, rfl⟩
  rw [attempt_eq]
  exact asked.trans (receiverReply_delivers _ target.url)

theorem followStep_delivers (setting : Setting) (state : State) (event : TriggerEvent)
    (target : WebhookTarget) (step : Webhook.DeliveryStep) :
    Delivers state (state.followStep setting event target step).2 := by
  cases step with
  | attempt wait progress => exact .refl state
  | finished outcome => exact ⟨.note _ _, rfl, rfl, rfl, rfl⟩

theorem deliveryFrame_delivers (setting : Setting) (event : TriggerEvent) :
    DeliveryFrame setting event (fun _ => True) Delivers where
  refl := .refl
  trans := .trans
  attempt {target} _ state progress := attempt_delivers setting state event target progress
  followStep {target} _ state step := followStep_delivers setting state event target step

/-! ## The course of the deliveries -/

/-- The deliveries of an event so far: the exchanges there were since the origin, and the phases
that they led to. -/
structure Course (setting : Setting) (event : TriggerEvent) (targets : List WebhookTarget)
    (origin : State) (exchanges : List Exchange)
    (deliveries : List (WebhookTarget × DeliveryPhase)) (state : State) : Prop where
  sentTo : deliveries.map Prod.fst = targets
  calls : state.calls = origin.calls ++ exchanges.map Exchange.call
  made : ∀ exchange ∈ exchanges, exchange.Made setting event targets
  replied : ∀ url,
    Script.replies usualReply (repliesOf url exchanges).length (origin.receivers.getD url []) =
      (repliesOf url exchanges, state.receivers.getD url [])
  reached : ∀ (place : Nat) (target : WebhookTarget) (phase : DeliveryPhase),
    deliveries[place]? = some (target, phase) →
      phase.Reached setting.policy (resultsAt place exchanges)
  survives : state.Survives

theorem receiverReply_receivers (state : State) (url other : String) :
    (state.receiverReply url).2.receivers.getD other [] =
      if url = other then (Script.next (state.receivers.getD url [])).2
      else state.receivers.getD other [] := by
  unfold receiverReply
  dsimp only
  split
  · dsimp only [Table.getD]
    rw [Table.get?_insert]
    split <;> rfl
  · rename_i unscripted
    split
    · rename_i same
      subst same
      have none : state.receivers.get? url = none := by
        simpa [Table.contains] using unscripted
      rw [Table.getD, none]
      rfl
    · rfl

theorem Survives.receiverReply {state : State} (survives : state.Survives) (url : String) :
    (state.receiverReply url).1.answer ≠ .crash ∧ (state.receiverReply url).2.Survives := by
  constructor
  · have given : (state.receiverReply url).1 =
        (Script.next (state.receivers.getD url [])).1.getD usualReply := rfl
    rw [given]
    cases next : (Script.next (state.receivers.getD url [])).1 with
    | none => exact ReceiverAnswer.noConfusion
    | some reply => exact survives url reply (Script.mem_of_next next)
  · intro other reply among
    rw [receiverReply_receivers] at among
    split at among
    · exact survives url reply (Script.mem_of_mem_next among)
    · exact survives other reply among

theorem attemptResult?_of_survived (setting : Setting) {reply : Reply ReceiverAnswer}
    (survived : reply.answer ≠ .crash) :
    ∃ duration result, attemptResult? setting reply = some (duration, result) := by
  unfold attemptResult?
  cases answer : reply.answer with
  | status code => exact ⟨_, _, rfl⟩
  | failure reason => exact ⟨_, _, rfl⟩
  | crash => exact absurd answer survived

/-- Following a step is to reach the phase that it says. -/
theorem reached_followStep {policy : Webhook.RetryPolicy} {results : List Webhook.AttemptResult}
    {step : Webhook.DeliveryStep} (stands : policy.after? results = some step) (setting : Setting)
    (state : State) (event : TriggerEvent) (target : WebhookTarget) :
    (state.followStep setting event target step).1.Reached policy results := by
  cases step with
  | attempt wait progress => exact ⟨wait, stands⟩
  | finished outcome => exact stands

theorem followStep_receivers (setting : Setting) (state : State) (event : TriggerEvent)
    (target : WebhookTarget) (step : Webhook.DeliveryStep) :
    (state.followStep setting event target step).2.receivers = state.receivers := by
  cases step <;> rfl

namespace Course

variable {setting : Setting} {event : TriggerEvent} {targets : List WebhookTarget} {origin : State}
  {exchanges : List Exchange} {deliveries : List (WebhookTarget × DeliveryPhase)} {state : State}

/-- The course of deliveries is told by the requests and the receivers. -/
theorem of_same (course : Course setting event targets origin exchanges deliveries state)
    {after : State} (calls : after.calls = state.calls)
    (receivers : after.receivers = state.receivers) :
    Course setting event targets origin exchanges deliveries after where
  sentTo := course.sentTo
  calls := calls.trans course.calls
  made := course.made
  replied := by
    rw [receivers]
    exact course.replied
  reached := course.reached
  survives := by
    unfold Survives
    rw [receivers]
    exact course.survives

/-- A delivery at its place goes on to another phase. -/
theorem set_phase (course : Course setting event targets origin exchanges deliveries state)
    {place : Nat} {target : WebhookTarget} {phase next : DeliveryPhase}
    (get : deliveries[place]? = some (target, phase))
    (reached : next.Reached setting.policy (resultsAt place exchanges)) :
    Course setting event targets origin exchanges (deliveries.set place (target, next)) state where
  sentTo := by
    rw [List.map_set, course.sentTo]
    apply set_eq_self
    rw [← course.sentTo, List.getElem?_map, get]
    rfl
  calls := course.calls
  made := course.made
  replied := course.replied
  reached := by
    intro other otherTarget otherPhase isAt
    rw [List.getElem?_set] at isAt
    split at isAt
    · rename_i same
      split at isAt
      · cases isAt
        exact same ▸ reached
      · cases isAt
    · exact course.reached other otherTarget otherPhase isAt
  survives := course.survives

/-- An attempt that was answered is followed by what the policy says. -/
theorem followStep (course : Course setting event targets origin exchanges deliveries state)
    {place due : Nat} {target : WebhookTarget} {progress : Webhook.DeliveryProgress}
    {result : Webhook.AttemptResult}
    (get : deliveries[place]? = some (target, .answering due progress result)) :
    let step := setting.policy.afterAttempt progress result
    Course setting event targets origin exchanges
      (deliveries.set place (target, (state.followStep setting event target step).1))
      (state.followStep setting event target step).2 := by
  rcases course.reached place target _ get with ⟨wait, earlier, results, awaited⟩
  have stands := Webhook.RetryPolicy.after?_next awaited result
  rw [← results] at stands
  exact (course.set_phase get (reached_followStep stands setting state event target)).of_same
    (followStep_calls setting event target state _)
    (followStep_receivers setting state event target _)

/-- An attempt is one more exchange, with the next reply of its receiver. -/
theorem attempt (course : Course setting event targets origin exchanges deliveries state)
    {place due : Nat} {target : WebhookTarget} {progress : Webhook.DeliveryProgress}
    (get : deliveries[place]? = some (target, .pausing due progress)) :
    ∃ exchange, Course setting event targets origin (exchanges ++ [exchange])
      (deliveries.set place (target, (state.attempt setting event target progress).1))
      (state.attempt setting event target progress).2 := by
  have asked : (state.asking setting event target).Survives := course.survives
  rcases asked.receiverReply target.url with ⟨survived, survives⟩
  rcases attemptResult?_of_survived setting survived with
    ⟨duration, result, answered⟩
  rw [attempt_eq, answered]
  have given : ((state.asking setting event target).receiverReply target.url).1 =
      (Script.next (state.receivers.getD target.url [])).1.getD usualReply := rfl
  have left := receiverReply_receivers (state.asking setting event target) target.url
  have called := receiverReply_calls (state.asking setting event target) target.url
  generalize (state.asking setting event target).receiverReply target.url = replied
    at survives answered given left called ⊢
  rcases replied with ⟨reply, after⟩
  dsimp only at survives answered given left called ⊢
  refine ⟨⟨place, request setting event target state, reply, result⟩, ?_⟩
  have isTarget : targets[place]? = some target := by
    rw [← course.sentTo, List.getElem?_map, get]
    rfl
  constructor
  case sentTo =>
    rw [List.map_set, course.sentTo]
    exact set_eq_self isTarget
  case calls =>
    rw [called, List.map_append, ← List.append_assoc, ← course.calls]
    rfl
  case made =>
    intro exchange among
    rcases List.mem_append.1 among with earlier | last
    · exact course.made exchange earlier
    · rw [List.mem_singleton] at last
      subst last
      exact ⟨⟨target, isTarget, request_asks setting event target state⟩, by rw [answered]; rfl⟩
  case replied =>
    intro url
    rw [repliesOf_concat, left]
    have before := course.replied url
    by_cases same : target.url = url
    · subst same
      have isUrl : (request setting event target state).url = target.url := rfl
      rw [if_pos isUrl, List.length_append, List.length_singleton, Script.replies, before,
        if_pos rfl, given]
      rfl
    · have isOther : (request setting event target state).url ≠ url := same
      rw [if_neg isOther, List.append_nil, if_neg same]
      exact before
  case reached =>
    intro other otherTarget otherPhase isAt
    rw [resultsAt_concat]
    rw [List.getElem?_set] at isAt
    split at isAt
    · rename_i same
      split at isAt
      · cases isAt
        rcases course.reached place target _ get with ⟨wait, awaits⟩
        rw [if_pos same, ← same]
        exact ⟨wait, _, rfl, awaits⟩
      · cases isAt
    · rename_i different
      rw [if_neg different, List.append_nil]
      exact course.reached other otherTarget otherPhase isAt
  case survives => exact survives

/-- However far a delivery is carried on, the course goes on with it. -/
theorem carryOn (moves : Nat)
    (course : Course setting event targets origin exchanges deliveries state) {place : Nat}
    {target : WebhookTarget} {phase : DeliveryPhase}
    (get : deliveries[place]? = some (target, phase)) :
    ∃ more, Course setting event targets origin (exchanges ++ more)
      (deliveries.set place (target, (State.carryOn setting event target moves phase state).1))
      (State.carryOn setting event target moves phase state).2 := by
  have still : ∃ more, Course setting event targets origin (exchanges ++ more)
      (deliveries.set place (target, phase)) state := by
    rw [set_eq_self get]
    exact ⟨[], by rw [List.append_nil]; exact course⟩
  have within := (List.getElem?_eq_some_iff.1 get).1
  induction moves generalizing exchanges deliveries phase state with
  | zero => exact still
  | succ moves induction =>
      -- One move, and the rest of them from where it led.
      have goOn {next : DeliveryPhase} {after : State} {made : List Exchange}
          (moved : Course setting event targets origin (exchanges ++ made)
            (deliveries.set place (target, next)) after) :
          ∃ more, Course setting event targets origin (exchanges ++ more)
            (deliveries.set place (target,
              (State.carryOn setting event target moves next after).1))
            (State.carryOn setting event target moves next after).2 := by
        have isNext : (deliveries.set place (target, next))[place]? = some (target, next) :=
          List.getElem?_set_self within
        rcases induction moved isNext
          ⟨[], by rw [set_eq_self isNext, List.append_nil]; exact moved⟩
          (by rw [List.length_set]; exact within) with ⟨more, later⟩
        rw [List.set_set, List.append_assoc] at later
        exact ⟨made ++ more, later⟩
      cases phase with
      | pausing due progress =>
          unfold State.carryOn
          dsimp only
          split
          · exact still
          · rcases course.attempt get with ⟨exchange, attempted⟩
            exact goOn attempted
      | answering due progress result =>
          unfold State.carryOn
          dsimp only
          split
          · exact still
          · have followed := course.followStep get
            rw [← List.append_nil exchanges] at followed
            exact goOn followed
      | crashed => exact still
      | ended outcome => exact still

/-- Carrying deliveries on at some places ends in no crash. -/
theorem carryOnAll (course : Course setting event targets origin exchanges deliveries state)
    (places : List Nat) :
    ∃ more carried, (State.carryOnAll setting event places deliveries state).1 = some carried ∧
      Course setting event targets origin (exchanges ++ more) carried
        (State.carryOnAll setting event places deliveries state).2 := by
  induction places generalizing exchanges deliveries state with
  | nil => exact ⟨[], deliveries, rfl, by rw [List.append_nil]; exact course⟩
  | cons place rest induction =>
      unfold State.carryOnAll
      split
      · exact induction course
      · rename_i target phase get
        rcases course.carryOn (deliveryMoves setting) get with ⟨made, moved⟩
        have within := (List.getElem?_eq_some_iff.1 get).1
        have survived := moved.reached place target _ (List.getElem?_set_self within)
        rcases induction moved with ⟨more, carried, isCarried, later⟩
        rw [List.append_assoc] at later
        dsimp only
        split
        · rename_i crashed
          rw [crashed] at survived
          exact survived.elim
        · exact ⟨made ++ more, carried, isCarried, later⟩

end Course

/-! ## The start of the deliveries -/

theorem foldl_startNext (setting : Setting) (event : TriggerEvent) (targets : List WebhookTarget)
    (sofar : List (WebhookTarget × DeliveryPhase) × State)
    (reached : ∀ delivery ∈ sofar.1, delivery.2.Reached setting.policy []) :
    (targets.foldl (startNext setting event) sofar).1.map Prod.fst =
        sofar.1.map Prod.fst ++ targets ∧
      (∀ delivery ∈ (targets.foldl (startNext setting event) sofar).1,
        delivery.2.Reached setting.policy []) ∧
      (targets.foldl (startNext setting event) sofar).2.calls = sofar.2.calls ∧
      (targets.foldl (startNext setting event) sofar).2.receivers = sofar.2.receivers := by
  induction targets generalizing sofar with
  | nil => exact ⟨(List.append_nil _).symm, reached, rfl, rfl⟩
  | cons target rest induction =>
      rcases sofar with ⟨started, state⟩
      have calls := followStep_calls setting event target state setting.policy.start
      have receivers := followStep_receivers setting state event target setting.policy.start
      have starts : ∀ delivery ∈ (startNext setting event (started, state) target).1,
          delivery.2.Reached setting.policy [] := by
        intro delivery among
        rcases List.mem_append.1 among with earlier | last
        · exact reached delivery earlier
        · rw [List.mem_singleton] at last
          rw [last]
          exact reached_followStep rfl setting state event target
      rcases induction (startNext setting event (started, state) target) starts with
        ⟨sentTo, all, sameCalls, sameReceivers⟩
      rw [List.foldl_cons]
      refine ⟨?_, all, sameCalls.trans calls, sameReceivers.trans receivers⟩
      rw [sentTo]
      simp [startNext]

/-- When the deliveries of a dispatch have started, no request has been made yet. -/
theorem startDeliveries_course (setting : Setting) {state : State} (survives : state.Survives)
    (dispatch : Dispatch) :
    Course setting dispatch.event dispatch.webhooks state []
        (state.startDeliveries setting dispatch).1 (state.startDeliveries setting dispatch).2 := by
  rcases foldl_startNext setting dispatch.event dispatch.webhooks ([], state)
    (fun delivery among => by cases among) with ⟨sentTo, all, calls, receivers⟩
  have course : Course setting dispatch.event dispatch.webhooks state []
      (state.startDeliveries setting dispatch).1 state :=
    { sentTo
      calls := (List.append_nil _).symm
      made := fun exchange among => by cases among
      replied := fun url => rfl
      reached := fun place target phase isAt => all _ (List.mem_of_getElem? isAt)
      survives }
  exact course.of_same calls receivers

end State

end Simulation

end CandleAlerts
