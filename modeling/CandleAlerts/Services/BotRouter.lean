import CandleAlerts.Services.Basic

/-!
Routing published events to the queues of bots.

A bot has an event queued once, however often it is published. Payloads that are no events are
passed over.
-/

namespace CandleAlerts

def routedTopics : TopicPattern := .family conditionTopicStart

namespace Services

/-- Queue an event for bots, one after the other; how many were queued anew, or none if storage
failed before the last. -/
def queueForBots (event : TriggerEvent) (queued : Nat) (services : Services) :
    List String → Option Nat × Services
  | [] => (some queued, services)
  | botId :: rest =>
      if services.works .enqueueBotTrigger then
        let (isNew, store) := services.store.enqueueBot botId event
        let services := { services with store }
        if isNew then
          queueForBots event (queued + 1) (services.count .botTriggersQueued 1) rest
        else queueForBots event queued services rest
      else (none, services)

def route (services : Services) (event : TriggerEvent) : Option Nat × Services :=
  queueForBots event 0 services event.botTargets

def routePayload (services : Services) (payload : String) : Services :=
  match TriggerEvent.parse? payload with
  | some event => (services.route event).2
  | none => services

def routeWaiting (services : Services) (receiver : Receiver) : Receiver × Services :=
  let (messages, receiver) := services.channel.receiveAll receiver
  (receiver, messages.foldl (fun services message =>
    services.routePayload message.payload) services)

end Services

end CandleAlerts
