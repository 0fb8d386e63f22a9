import CandleAlerts.Alert.Runtime

/-!
Trigger events: what is told when an alert fires.
-/

namespace CandleAlerts

/-- The values of the bar an alert fired on. -/
structure TriggerValue where
  price : Float
  openPrice : Float
  high : Float
  low : Float
  volume : Float

/-- An alert that fired on a bar. -/
structure TriggerEvent where
  eventId : String
  conditionId : String
  alertId : String
  ownerId : String
  symbol : String
  timeframe : Timeframe
  triggeredAt : Instant
  barTime : Int
  triggerValue : TriggerValue
  satisfiedConditionIds : List String
  failedConditionIds : List String
  botTargets : List String
  publishedAt : Option Instant

/-- The id of the event of an alert on a bar: two bars, and two alerts, have different ones. -/
def eventIdOf (alertId : String) (barTime : Int) : String :=
  alertId ++ ":" ++ String.ofList (Decimal.writeInt barTime)

namespace TriggerValue

def toJson (value : TriggerValue) : Json := .object
  [("price", .ofFloat value.price), ("open", .ofFloat value.openPrice),
    ("high", .ofFloat value.high),
   ("low", .ofFloat value.low), ("volume", .ofFloat value.volume)]

def fieldNames : List String := ["price", "open", "high", "low", "volume"]

def ofJson? (value : Json) : Option TriggerValue := do
  let record ← Json.Record.of? fieldNames value
  return {
    price := ← record.required? "price" Json.float?
    openPrice := ← record.required? "open" Json.float?
    high := ← record.required? "high" Json.float?
    low := ← record.required? "low" Json.float?
    volume := ← record.required? "volume" Json.float? }

end TriggerValue

def Timeframe.ofJson? (value : Json) : Option Timeframe := value.text?.bind parse?

namespace TriggerEvent

def of (alert : Alert) (bar : Candle) (outcome : LogicOutcome) (now : Instant) : TriggerEvent :=
  { eventId := eventIdOf alert.id bar.time
    conditionId := alert.id
    alertId := alert.id
    ownerId := alert.ownerId
    symbol := alert.symbol
    timeframe := alert.timeframe
    triggeredAt := now
    barTime := bar.time
    triggerValue :=
      { price := bar.close, openPrice := bar.openPrice, high := bar.high, low := bar.low,
        volume := bar.volume }
    satisfiedConditionIds := outcome.satisfied
    failedConditionIds := outcome.failed
    botTargets := []
    publishedAt := none }

/-- The event as JSON. Bot targets stand only where there are any. -/
def toJson (event : TriggerEvent) : Json := .object <|
  [("eventId", .string event.eventId), ("conditionId", .string event.conditionId),
   ("alertId", .string event.alertId), ("ownerId", .string event.ownerId),
   ("symbol", .string event.symbol), ("timeframe", .string event.timeframe.text),
   ("triggeredAt", event.triggeredAt.toJson), ("barTime", .ofInt event.barTime),
   ("triggerValue", event.triggerValue.toJson),
   ("satisfiedConditionIds", .ofList .string event.satisfiedConditionIds),
   ("failedConditionIds", .ofList .string event.failedConditionIds)] ++
  (if event.botTargets.isEmpty then [] else [("botTargets", .ofList .string event.botTargets)]) ++
  [("publishedAt", .ofOption Instant.toJson event.publishedAt)]

def fieldNames : List String :=
  ["eventId", "conditionId", "alertId", "ownerId", "symbol", "timeframe", "triggeredAt", "barTime",
   "triggerValue", "satisfiedConditionIds", "failedConditionIds", "botTargets", "publishedAt"]

def ofJson? (value : Json) : Option TriggerEvent := do
  let record ← Json.Record.of? fieldNames value
  return {
    eventId := ← record.required? "eventId" Json.text?
    conditionId := ← record.required? "conditionId" Json.text?
    alertId := ← record.required? "alertId" Json.text?
    ownerId := ← record.required? "ownerId" Json.text?
    symbol := ← record.required? "symbol" Json.text?
    timeframe := ← record.required? "timeframe" Timeframe.ofJson?
    triggeredAt := ← record.required? "triggeredAt" Instant.ofJson?
    barTime := ← record.required? "barTime" Json.int64?
    triggerValue := ← record.required? "triggerValue" TriggerValue.ofJson?
    satisfiedConditionIds := ← record.required? "satisfiedConditionIds" (Json.list? Json.text?)
    failedConditionIds := ← record.required? "failedConditionIds" (Json.list? Json.text?)
    botTargets := ← record.defaulted? "botTargets" [] (Json.list? Json.text?)
    publishedAt := ← record.defaulted? "publishedAt" none (Json.nullable? Instant.ofJson?) }

def text (event : TriggerEvent) : String := event.toJson.compact

def shape : Json.Shape :=
  .record (fieldNames.map (fun name =>
    (name, if name = "triggerValue" then .ofFields TriggerValue.fieldNames else .whole)))

def parse? (text : String) : Option TriggerEvent := (Json.readAs? shape text).bind ofJson?

end TriggerEvent

end CandleAlerts
