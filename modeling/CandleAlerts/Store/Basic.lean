import CandleAlerts.Subscription
import CandleAlerts.Trigger.Event

/-!
What is kept in storage: the definitions of alerts, the subscriptions, and a record of all that was
done.

Nothing is deleted. A definition or subscription that is given up is marked as inactive.
-/

namespace CandleAlerts

/-- A stored alert definition, which is read anew whenever it is loaded. -/
structure AlertRecord where
  id : String
  definition : Json

/-- The record of one webhook delivery, with all its attempts. -/
structure DeliveryAudit where
  eventId : String
  alertId : String
  subscriptionId : Option String
  url : String
  attempts : Nat
  status : Option Nat
  delivered : Bool
  error : Option String
  createdAt : Instant

structure Notification where
  userId : String
  alertId : String
  eventId : String
  title : String
  body : String
  createdAt : Instant
deriving DecidableEq

def DeliveryAudit.toJson (audit : DeliveryAudit) : Json := .object
  [("event_id", .string audit.eventId), ("alert_id", .string audit.alertId),
   ("subscription_id", .ofOption .string audit.subscriptionId), ("url", .string audit.url),
   ("attempts", .ofNat audit.attempts), ("status_code", .ofOption .ofNat audit.status),
   ("delivered", .boolean audit.delivered), ("error", .ofOption .string audit.error),
   ("created_at", audit.createdAt.toJson)]

def Notification.toJson (notification : Notification) : Json := .object
  [("user_id", .string notification.userId), ("alert_id", .string notification.alertId),
   ("event_id", .string notification.eventId), ("title", .string notification.title),
   ("body", .string notification.body), ("created_at", notification.createdAt.toJson)]

/-- Everything that is kept. -/
structure Store where
  /-- The definitions by id, and whether they are active. -/
  alerts : Table (AlertRecord × Bool) := Table.empty
  subscriptions : List Subscription := []
  triggers : List TriggerEvent := []
  deliveries : List DeliveryAudit := []
  notifications : List Notification := []
  botQueue : List (String × TriggerEvent) := []

namespace Store

def activeAlerts (store : Store) : List AlertRecord :=
  (store.alerts.values.filter Prod.snd).map Prod.fst

/-- Keep a definition as active, replacing one of the same id. -/
def saveAlert (store : Store) (record : AlertRecord) : Store :=
  { store with alerts := store.alerts.insert record.id (record, true) }

/-- Mark a definition as inactive; whether it was active. -/
def deactivateAlert (store : Store) (id : String) : Bool × Store :=
  match store.alerts.get? id with
  | some (record, true) => (true, { store with alerts := store.alerts.insert id (record, false) })
  | _ => (false, store)

def activeSubscriptions (store : Store) : List Subscription :=
  store.subscriptions.filter Subscription.active

/-- Keep a subscription, replacing one of the same id. -/
def saveSubscription (store : Store) (subscription : Subscription) : Store :=
  { store with
    subscriptions :=
      store.subscriptions.filter (fun other => other.id != subscription.id) ++ [subscription] }

/-- Mark a subscriber's subscriptions to a condition as inactive; how many there were. -/
def deactivateSubscription (store : Store) (subscriberId conditionId : String) : Nat × Store :=
  let ends (subscription : Subscription) : Bool :=
    subscription.active && subscription.subscriberId == subscriberId &&
      subscription.conditionId == conditionId
  ((store.subscriptions.filter ends).length,
   { store with
     subscriptions := store.subscriptions.map (fun subscription =>
       if ends subscription then { subscription with active := false } else subscription) })

/-- Note when a subscription was last served. -/
def touchSubscription (store : Store) (id : String) (now : Instant) : Store :=
  match store.subscriptions.findIdx? (fun subscription => subscription.id == id) with
  | some place =>
      { store with
        subscriptions := store.subscriptions.modify place
          (fun subscription => { subscription with lastTriggeredAt := some now }) }
  | none => store

def recordTrigger (store : Store) (event : TriggerEvent) : Store :=
  { store with triggers := store.triggers ++ [event] }

def recordDelivery (store : Store) (audit : DeliveryAudit) : Store :=
  { store with deliveries := store.deliveries ++ [audit] }

def insertNotification (store : Store) (notification : Notification) : Store :=
  { store with notifications := store.notifications ++ [notification] }

def isQueued (store : Store) (botId eventId : String) : Bool :=
  store.botQueue.any (fun entry => entry.1 == botId && entry.2.eventId == eventId)

/-- Queue an event for a bot, once; whether it was not queued before. -/
def enqueueBot (store : Store) (botId : String) (event : TriggerEvent) : Bool × Store :=
  if store.isQueued botId event.eventId then (false, store)
  else (true, { store with botQueue := store.botQueue ++ [(botId, event)] })

end Store

end CandleAlerts
