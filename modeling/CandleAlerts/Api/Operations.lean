import CandleAlerts.Api.Message
import CandleAlerts.Definition.Alert
import CandleAlerts.Services.Basic
import CandleAlerts.Registry.Group
import CandleAlerts.Webhook.Verifier

/-!
The operations of the internal API.

Storage is changed before the registry. An operation that is refused changes neither.
-/

namespace CandleAlerts.Api

/-- What the API goes by. -/
structure Settings where
  defaultFireMode : FireMode
  /-- The timeframes that are evaluated. -/
  timeframes : List Timeframe
  verifier : Option Webhook.Verifier
  hasMetrics : Bool
  mac : Mac
  /-- The ids given out to subscriptions, in order. -/
  subscriptionId : Nat → String

/-- Why an operation is refused. -/
inductive Refusal where
  | definition (cause : DefinitionError)
  | invalid (reason : String)
  | notFound (reason : String)
  | unauthorized (reason : String)
  | conflict (reason : String)
  | storage
  | unavailable
  /-- The operation crashed. -/
  | crashed (reason : String)

namespace Refusal

def status : Refusal → Option Nat
  | definition _ => some 422
  | invalid _ => some 422
  | notFound _ => some 404
  | unauthorized _ => some 401
  | conflict _ => some 409
  | storage => some 500
  | unavailable => some 503
  | crashed _ => none

def message : Refusal → String
  | definition cause => cause.message
  | invalid reason => reason
  | notFound reason => reason
  | unauthorized reason => reason
  | conflict reason => reason
  | storage => "storage error"
  | unavailable => "service unavailable"
  | crashed reason => reason

def response (refusal : Refusal) : Response :=
  { status := refusal.status
    body := refusal.status.map (fun _ => .object [("error", .string refusal.message)]) }

/-- The refusal of a request that was not verified. -/
def ofVerifyError (error : Webhook.VerifyError) : Refusal :=
  match error with
  | .duplicate _ => conflict error.message
  | .store _ => unavailable
  | .crashed reason => crashed reason
  | _ => unauthorized error.message

end Refusal

abbrev Answer := Except Refusal Json × Services

def activate (settings : Settings) (services : Services) (definition : Json) : Answer :=
  match Definition.readAlert definition settings.defaultFireMode with
  | .error cause => (.error (.definition cause), services)
  | .ok alert =>
      let (saved, services) := services.changeStore .saveAlert
        (fun store => store.saveAlert { id := alert.id, definition })
      if saved then
        let (activation, registry) := services.registry.activate alert none
        let services := { services with registry }
        let scanned := settings.timeframes.contains alert.timeframe
        let services :=
          if scanned then services
          else
            { services with
              journal := services.journal.warn (.alertTimeframeNotScanned alert.id) }
        (.ok (.object
          [("alert_id", .string alert.id), ("status", .string activation.text),
           ("scanned", .boolean scanned)]), services)
      else (.error .storage, services)

def deactivate (services : Services) (alertId : String) : Answer :=
  let (saved, services) := services.changeStore .deactivateAlert
    (fun store => (store.deactivateAlert alertId).2)
  if saved then
    let (removed, registry) := services.registry.deactivate alertId
    (.ok (.object [("alert_id", .string alertId), ("removed", .boolean removed)]),
     { services with registry })
  else (.error .storage, services)

def showState (services : Services) (alertId : String) : Except Refusal Json :=
  match services.registry.get? alertId with
  | none => .error (.notFound ("alert " ++ alertId ++ " is not active"))
  | some entry => .ok (.object
      [("alert_id", .string alertId), ("symbol", .string entry.alert.symbol),
       ("timeframe", .string entry.alert.timeframe.text),
       ("fire_mode", .string entry.alert.fireMode.text),
       ("runtime", (services.registry.cell entry.cell).toJson)])

/-- Whether a recipient can be reached: a webhook has an address of the web. -/
def isReachable : Recipient → Bool
  | .webhook url _ => Text.startsWith url "https://" || Text.startsWith url "http://"
  | _ => true

def subscriptionRefusal? (registry : Registry) (subscriberId conditionId : String)
    (recipient : Recipient) : Option Refusal :=
  if (Text.trim subscriberId).isEmpty then some (.invalid "subscriber_id must not be empty")
  else if !isReachable recipient then some (.invalid "webhook url must be http(s)")
  else if (registry.get? conditionId).isNone then
    some (.notFound ("condition " ++ conditionId ++ " is not active"))
  else none

def subscribe (settings : Settings) (services : Services) (subscriberId conditionId : String)
    (recipient : Recipient) : Answer :=
  match subscriptionRefusal? services.registry subscriberId conditionId recipient with
  | some refusal => (.error refusal, services)
  | none =>
      let subscription : Subscription :=
        { id := settings.subscriptionId services.issuedIds, subscriberId, conditionId, recipient
          active := true, lastTriggeredAt := none }
      let (saved, services) := services.changeStore .saveSubscription
        (fun store => store.saveSubscription subscription)
      if saved then
        (.ok (.object [("subscription_id", .string subscription.id)]),
         { services with
           registry := services.registry.subscribe subscription
           issuedIds := services.issuedIds + 1 })
      else (.error .storage, services)

def unsubscribe (services : Services) (subscriberId conditionId : String) : Answer :=
  let (saved, services) := services.changeStore .deactivateSubscription
    (fun store => (store.deactivateSubscription subscriberId conditionId).2)
  if saved then
    let (ended, registry) := services.registry.unsubscribe subscriberId conditionId
    (.ok (.object [("deactivated", .ofNat ended.length)]), { services with registry })
  else (.error .storage, services)

def signatureHeaderName : String := "X-Signature"
def eventIdHeaderName : String := "X-Event-Id"

/-- Claim the event of a signed request that passed every other check. -/
def claimEvent (services : Services) (verifier : Webhook.Verifier) (eventId : String) (clock : Nat) :
    Except Webhook.VerifyError String × Services :=
  if verifier.memoryFits then
    let (outcome, services) := services.claim (Webhook.claimKey eventId) verifier.memory clock
    (Webhook.Verifier.settle eventId outcome, services)
  else (.error Webhook.Verifier.memoryOverflow, services)

/-- Verify a signed request at a second of the calendar and a time on the clock of claims. -/
def verify (settings : Settings) (services : Services) (request : Request) (now : Int)
    (clock : Nat) :
    Answer :=
  match settings.verifier with
  | none => (.error .unavailable, services)
  | some verifier =>
      match request.textHeader? signatureHeaderName, request.textHeader? eventIdHeaderName with
      | none, _ => (.error (.unauthorized ("missing " ++ signatureHeaderName ++ " header")),
        services)
      | _, none => (.error (.invalid ("missing " ++ eventIdHeaderName ++ " header")), services)
      | some signature, some eventId =>
          match verifier.examine settings.mac request.body signature eventId now with
          | .error error => (.error (.ofVerifyError error), services)
          | .ok eventId =>
              let (claimed, services) := claimEvent services verifier eventId clock
              match claimed with
              | .error error => (.error (.ofVerifyError error), services)
              | .ok eventId =>
                  (.ok (.object [("valid", .boolean true), ("event_id", .string eventId)]),
                    services)

def showStatus (settings : Settings) (registry : Registry) : Json := .object
  [("active_alerts", .ofNat registry.alerts.size),
   ("active_subscriptions", .ofNat registry.activeSubscriptionCount),
   ("groups", .ofNat registry.groupKeys.length),
   ("timeframes", .ofList (fun timeframe => .string timeframe.text) settings.timeframes)]

end CandleAlerts.Api
