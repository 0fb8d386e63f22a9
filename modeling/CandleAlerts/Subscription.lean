import CandleAlerts.Alert.Runtime

/-!
Subscriptions: who else is told when an alert fires.
-/

namespace CandleAlerts

/-- Where a subscriber is reached. -/
inductive Recipient where
  | webhook (url : String) (secret : Option String)
  | inApp (userId : String)
  | bot (botId : String)
deriving DecidableEq

/-- A subscription to a condition. One that was given up stays, inactive. -/
structure Subscription where
  id : String
  subscriberId : String
  conditionId : String
  recipient : Recipient
  active : Bool
  lastTriggeredAt : Option Instant
deriving DecidableEq

namespace Recipient

def toJson : Recipient → Json
  | webhook url secret => .object
      [("type", .string "webhook"), ("url", .string url), ("secret", .ofOption .string secret)]
  | inApp userId => .object [("type", .string "in_app"), ("user_id", .string userId)]
  | bot botId => .object [("type", .string "bot"), ("bot_id", .string botId)]

def kinds : List String := ["webhook", "in_app", "bot"]

def ofJson? (value : Json) : Option Recipient := do
  let (kind, fields) ← Json.tagged? "type" value
  match kind with
  | "webhook" =>
      let record ← Json.Record.of? ["url", "secret"] fields
      return .webhook (← record.required? "url" Json.text?) (← record.optional? "secret" Json.text?)
  | "in_app" =>
      let record ← Json.Record.of? ["user_id"] fields
      return .inApp (← record.required? "user_id" Json.text?)
  | "bot" =>
      let record ← Json.Record.of? ["bot_id"] fields
      return .bot (← record.required? "bot_id" Json.text?)
  | _ => none

end Recipient

namespace Subscription

def toJson (subscription : Subscription) : Json := .object
  [("id", .string subscription.id), ("subscriber_id", .string subscription.subscriberId),
   ("condition_id", .string subscription.conditionId), ("kind", subscription.recipient.toJson),
   ("active", .boolean subscription.active),
   ("last_triggered_at", .ofOption Instant.toJson subscription.lastTriggeredAt)]

def ofJson? (value : Json) : Option Subscription := do
  let record ← Json.Record.of?
    ["id", "subscriber_id", "condition_id", "kind", "active", "last_triggered_at"] value
  return {
    id := ← record.required? "id" Json.text?
    subscriberId := ← record.required? "subscriber_id" Json.text?
    conditionId := ← record.required? "condition_id" Json.text?
    recipient := ← record.required? "kind" Recipient.ofJson?
    active := ← record.required? "active" Json.bool?
    lastTriggeredAt := ← record.optional? "last_triggered_at" Instant.ofJson? }

end Subscription

end CandleAlerts
