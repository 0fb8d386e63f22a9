import CandleAlerts.Services.Basic
import CandleAlerts.Dispatch.Targets
import CandleAlerts.Webhook.Delivery

/-!
Dispatching an event.

An event is claimed first, so that it is dispatched once. It is then recorded and published, sent to
every webhook, and shown to every user. When the last delivery has ended, each is audited and the
subscriptions note when they were served.
-/

namespace CandleAlerts

structure DispatchReport where
  duplicate : Bool := false
  published : Bool := false
  webhooksDelivered : Nat := 0
  webhooksFailed : Nat := 0
  notifications : Nat := 0
deriving DecidableEq

def DispatchReport.toJson (report : DispatchReport) : Json := .object
  [("duplicate", .boolean report.duplicate), ("published", .boolean report.published),
   ("webhooks_delivered", .ofNat report.webhooksDelivered),
   ("webhooks_failed", .ofNat report.webhooksFailed),
   ("notifications", .ofNat report.notifications)]

def dispatchKey (eventId : String) : String := "dispatch:" ++ eventId

/-- How long a dispatched event stays claimed: a day. -/
def dispatchMemory : Nat := 24 * 3600 * Claims.second

structure Dispatch where
  event : TriggerEvent
  webhooks : List WebhookTarget
  users : List String
  /-- The subscriptions that were active when it began. -/
  subscriptionIds : List String
  report : DispatchReport

def TriggerEvent.publishedFor (event : TriggerEvent) (bots : List String) (now : Instant) :
    TriggerEvent :=
  { event with botTargets := bots, publishedAt := some now }

def TriggerEvent.toMessage (event : TriggerEvent) : Message :=
  { topic := conditionTopic event.conditionId, key := event.symbol, payload := event.text }

def TriggerEvent.notification (event : TriggerEvent) (userId : String) : Notification :=
  { userId
    alertId := event.alertId
    eventId := event.eventId
    title := event.symbol ++ " alert triggered"
    body := event.symbol ++ " " ++ event.timeframe.text ++ " at " ++
      String.ofList (Decimal.writeFixed 8 event.triggerValue.price)
    createdAt := event.triggeredAt }

def TriggerEvent.audit (event : TriggerEvent) (target : WebhookTarget)
    (outcome : Webhook.DeliveryOutcome) (now : Instant) : DeliveryAudit :=
  { eventId := event.eventId
    alertId := event.alertId
    subscriptionId := target.subscriptionId
    url := target.url
    attempts := outcome.attempts
    status := outcome.status
    delivered := outcome.error.isNone
    error := outcome.error.map Webhook.DeliveryError.message
    createdAt := now }

namespace Services

def beginClaimed (services : Services) (alert : Alert) (event : TriggerEvent)
    (defaultSecret : String) (now : Instant) : Dispatch × Services :=
  let subscriptions := services.registry.activeSubscriptions event.conditionId
  let targets := Targets.of alert subscriptions defaultSecret
  let event := event.publishedFor targets.bots now
  let (_, services) := services.changeStore .recordTrigger (fun store => store.recordTrigger event)
  let (published, services) := services.publish event.toMessage
  ({ event
     webhooks := targets.webhooks
     users := targets.users
     subscriptionIds := subscriptions.map Subscription.id
     report := { published } }, services)

/-- Begin to dispatch an event, unless it was dispatched before or the claim crashes. When claims are
unavailable it is dispatched all the same, for its receivers can tell events apart by their ids. -/
def beginDispatch (services : Services) (alert : Alert) (event : TriggerEvent)
    (defaultSecret : String) (now : Instant) (clock : Nat) : Option Dispatch × Services :=
  let (outcome, services) := services.claim (dispatchKey event.eventId) dispatchMemory clock
  match outcome with
  | .taken | .crashed => (none, services)
  | .claimed | .unavailable _ =>
      let (dispatch, services) := services.beginClaimed alert event defaultSecret now
      (some dispatch, services)

def notifyUser (event : TriggerEvent) (state : Nat × Services) (userId : String) : Nat × Services :=
  let (shown, services) := state.2.changeStore .insertNotification
    (fun store => store.insertNotification (event.notification userId))
  (if shown then state.1 + 1 else state.1, services)

def notifyUsers (services : Services) (dispatch : Dispatch) : Dispatch × Services :=
  let (shown, services) := dispatch.users.foldl (notifyUser dispatch.event) (0, services)
  ({ dispatch with report := { dispatch.report with notifications := shown } }, services)

def auditDelivery (event : TriggerEvent) (now : Instant) (state : DispatchReport × Services)
    (delivery : WebhookTarget × Webhook.DeliveryOutcome) : DispatchReport × Services :=
  let (report, services) := state
  let (_, services) := services.changeStore .recordDelivery
    (fun store => store.recordDelivery (event.audit delivery.1 delivery.2 now))
  (if delivery.2.error.isNone then
      { report with webhooksDelivered := report.webhooksDelivered + 1 }
    else { report with webhooksFailed := report.webhooksFailed + 1 }, services)

/-- End a dispatch whose deliveries have all ended, with their outcomes in the order of the
webhooks. -/
def finishDispatch (services : Services) (dispatch : Dispatch)
    (outcomes : List Webhook.DeliveryOutcome) (now : Instant) : DispatchReport × Services :=
  let (report, services) := (dispatch.webhooks.zip outcomes).foldl
    (auditDelivery dispatch.event now) (dispatch.report, services)
  let services := { services with
    registry := services.registry.touchSubscriptions dispatch.event.conditionId now }
  let services := dispatch.subscriptionIds.foldl (fun services id =>
    (services.changeStore .touchSubscription (fun store => store.touchSubscription id now)).2)
      services
  (report, services.count .triggersDispatched 1)

end Services

end CandleAlerts
