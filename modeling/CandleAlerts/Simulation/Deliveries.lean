import CandleAlerts.Simulation.Basic
import CandleAlerts.Webhook.Body

/-!
Deliveries in virtual time.

A delivery is carried on whenever it is due, until it has to wait again or ends.
-/

namespace CandleAlerts.Simulation

/-- How long an attempt takes and what comes of it. A reply that takes longer than the time limit is
not waited for. There is no result when the receiver's answer is not survived. -/
def attemptResult? (setting : Setting) (reply : Reply ReceiverAnswer) :
    Option (Nat × Webhook.AttemptResult) :=
  match reply.answer with
  | .crash => none
  | .status code => some (within (.status code))
  | .failure reason => some (within (.failure reason))
where
  within (result : Webhook.AttemptResult) : Nat × Webhook.AttemptResult :=
    if setting.timer setting.policy.timeout < setting.timer reply.delay then
      (setting.timer setting.policy.timeout, .timeout)
    else (setting.timer reply.delay, result)

namespace State

/-- The next reply of a webhook's receiver. Without a script every request is well received. -/
def receiverReply (state : State) (url : String) : Reply ReceiverAnswer × State :=
  let (reply, rest) := Script.next (state.receivers.getD url [])
  (reply.getD { answer := .status 200 },
   if state.receivers.contains url then
     { state with receivers := state.receivers.insert url rest }
   else state)

def attempt (setting : Setting) (state : State) (event : TriggerEvent) (target : WebhookTarget)
    (progress : Webhook.DeliveryProgress) : DeliveryPhase × State :=
  let timestamp := setting.calendar.seconds
  let body := Webhook.body event timestamp
  let call : Call :=
    { time := state.time
      url := target.url
      eventId := event.eventId
      signature := (Webhook.signatureHeader setting.mac target.secret timestamp body).text
      body }
  let (reply, state) := { state with
    calls := state.calls ++ [call]
    services := state.services.count .webhookAttempts 1 }.receiverReply target.url
  match attemptResult? setting reply with
  | none => (.crashed, state)
  | some (duration, result) => (.answering (state.time + duration) progress result, state)

def followStep (setting : Setting) (state : State) (event : TriggerEvent)
    (target : WebhookTarget) : Webhook.DeliveryStep → DeliveryPhase × State
  | .attempt wait progress => (.pausing (state.time + setting.timer wait) progress, state)
  | .finished outcome =>
      (.ended outcome, state.onServices (fun services =>
        services.note (outcome.journal target.url event.eventId)))

/-- Carry a delivery on, in at most so many moves, as long as it is due. -/
def carryOn (setting : Setting) (event : TriggerEvent) (target : WebhookTarget) :
    (moves : Nat) → DeliveryPhase → State → DeliveryPhase × State
  | 0, phase, state => (phase, state)
  | moves + 1, phase, state =>
      match phase with
      | .pausing due progress =>
          if state.time < due then (phase, state)
          else
            let (phase, state) := state.attempt setting event target progress
            carryOn setting event target moves phase state
      | .answering due progress result =>
          if state.time < due then (phase, state)
          else
            let (phase, state) := state.followStep setting event target
              (setting.policy.afterAttempt progress result)
            carryOn setting event target moves phase state
      | _ => (phase, state)

/-- Enough moves to carry a delivery to its end: two for each attempt. -/
def deliveryMoves (setting : Setting) : Nat := 2 * setting.policy.attempts + 2

def startDelivery (setting : Setting) (state : State) (event : TriggerEvent)
    (target : WebhookTarget) : DeliveryPhase × State :=
  state.followStep setting event target setting.policy.start

/-- Carry on the deliveries of a dispatch at some places, in this order. One that crashes takes the
others with it. -/
def carryOnAll (setting : Setting) (event : TriggerEvent) :
    (places : List Nat) → List (WebhookTarget × DeliveryPhase) → State →
      Option (List (WebhookTarget × DeliveryPhase)) × State
  | [], deliveries, state => (some deliveries, state)
  | place :: rest, deliveries, state =>
      match deliveries[place]? with
      | none => carryOnAll setting event rest deliveries state
      | some (target, phase) =>
          let (phase, state) := carryOn setting event target (deliveryMoves setting) phase state
          match phase with
          | .crashed => (none, state)
          | _ => carryOnAll setting event rest (deliveries.set place (target, phase)) state

/-- A delivery by itself, from one time it is due to the next. -/
def deliverAlone (setting : Setting) (event : TriggerEvent) (target : WebhookTarget) :
    (rounds : Nat) → DeliveryPhase → State → Option Webhook.DeliveryOutcome × State
  | 0, _, state => (none, state)
  | rounds + 1, phase, state =>
      let (phase, state) := carryOn setting event target (deliveryMoves setting) phase state
      match phase, phase.due? with
      | .ended outcome, _ => (some outcome, state)
      | _, some due => deliverAlone setting event target rounds phase { state with time := due }
      | _, none => (none, state)

end State

end CandleAlerts.Simulation
