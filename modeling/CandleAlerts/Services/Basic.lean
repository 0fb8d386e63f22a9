import CandleAlerts.Broker.Channel
import CandleAlerts.Claims
import CandleAlerts.Journal
import CandleAlerts.Registry.Subscriptions
import CandleAlerts.Store.Basic

/-!
The services that share what the program knows: the registry, storage, claims and the broker.

A part of the services may be down; what would use it fails then, and changes nothing.
-/

namespace CandleAlerts

inductive ServicePart where
  | loadActiveAlerts
  | saveAlert
  | deactivateAlert
  | loadActiveSubscriptions
  | saveSubscription
  | deactivateSubscription
  | touchSubscription
  | recordTrigger
  | recordDelivery
  | insertNotification
  | enqueueBotTrigger
  | publish
  | claim
deriving DecidableEq

namespace ServicePart

def name : ServicePart → String
  | loadActiveAlerts => "load_active_alerts"
  | saveAlert => "save_alert"
  | deactivateAlert => "deactivate_alert"
  | loadActiveSubscriptions => "load_active_subscriptions"
  | saveSubscription => "save_subscription"
  | deactivateSubscription => "deactivate_subscription"
  | touchSubscription => "touch_subscription"
  | recordTrigger => "record_trigger"
  | recordDelivery => "record_delivery"
  | insertNotification => "insert_notification"
  | enqueueBotTrigger => "enqueue_bot_trigger"
  | publish => "publish"
  | claim => "claim"

def all : List ServicePart :=
  [loadActiveAlerts, saveAlert, deactivateAlert, loadActiveSubscriptions, saveSubscription,
   deactivateSubscription, touchSubscription, recordTrigger, recordDelivery, insertNotification,
   enqueueBotTrigger, publish, claim]

def failure (part : ServicePart) : String := part.name ++ " is down"

def ofName? (name : String) : Option ServicePart :=
  all.find? (fun part => part.name == name)

end ServicePart

/-- What the program knows and has done. -/
structure Services where
  registry : Registry := {}
  store : Store := {}
  claims : Claims := {}
  channel : Channel
  /-- The messages the broker took. -/
  published : List Message := []
  /-- How many ids were given out to subscriptions. -/
  issuedIds : Nat := 0
  down : List ServicePart := []
  journal : Journal := {}

namespace Services

def works (services : Services) (part : ServicePart) : Bool := !services.down.contains part

def count (services : Services) (counter : Counter) (times : Nat) : Services :=
  { services with journal := services.journal.count counter times }

def note (services : Services) (journal : Journal) : Services :=
  { services with journal := services.journal ++ journal }

/-- Change storage through one of its parts; whether the part works. -/
def changeStore (services : Services) (part : ServicePart) (change : Store → Store) :
    Bool × Services :=
  if services.works part then (true, { services with store := change services.store })
  else (false, services)

def claim (services : Services) (key : String) (lifetime now : Nat) : ClaimOutcome × Services :=
  if services.works .claim then
    let (outcome, claims) := services.claims.claim key lifetime now
    (outcome, { services with claims })
  else (.unavailable ServicePart.claim.failure, services)

/-- Publish a message; whether the broker took it. -/
def publish (services : Services) (message : Message) : Bool × Services :=
  if services.works .publish then
    (true, { services with
      channel := services.channel.publish message
      published := services.published ++ [message]
      journal := services.journal.count .brokerPublished 1 })
  else (false, services.count .brokerPublishFailed 1)

end Services

end CandleAlerts
