import CandleAlerts.Registry.Basic

/-!
The registry's subscriptions.

A subscriber has at most one active subscription of a kind to a condition: a new one takes the place
of the old. Giving up a subscription leaves it listed as inactive.
-/

namespace CandleAlerts

def Subscription.replaces (subscription other : Subscription) : Bool :=
  other.active && other.subscriberId == subscription.subscriberId &&
    other.recipient == subscription.recipient

namespace Registry

/-- The subscriptions to a condition, those given up among them. -/
def subscriptionsTo (registry : Registry) (conditionId : String) : List Subscription :=
  registry.subscriptions.getD conditionId []

def activeSubscriptions (registry : Registry) (conditionId : String) : List Subscription :=
  (registry.subscriptionsTo conditionId).filter Subscription.active

def subscribe (registry : Registry) (subscription : Subscription) : Registry :=
  let others := (registry.subscriptionsTo subscription.conditionId).filter
    (fun other => !subscription.replaces other)
  { registry with
    subscriptions := registry.subscriptions.insert subscription.conditionId
      (others ++ [subscription]) }

/-- Give up a subscriber's subscriptions to a condition; those that were given up. -/
def unsubscribe (registry : Registry) (subscriberId conditionId : String) :
    List Subscription × Registry :=
  let ends (subscription : Subscription) : Bool :=
    subscription.active && subscription.subscriberId == subscriberId
  let ended (subscription : Subscription) : Subscription :=
    if ends subscription then { subscription with active := false } else subscription
  (((registry.subscriptionsTo conditionId).filter ends).map ended,
   { registry with
     subscriptions := registry.subscriptions.modify conditionId (fun list => list.map ended) })

def replaceSubscriptions (registry : Registry) (subscriptions : List Subscription) : Registry :=
  { registry with
    subscriptions := subscriptions.foldl (fun table subscription =>
      table.insert subscription.conditionId
        (table.getD subscription.conditionId [] ++ [subscription])) Table.empty }

/-- Note when the active subscriptions to a condition were last served. -/
def touchSubscriptions (registry : Registry) (conditionId : String) (now : Instant) : Registry :=
  let touched (subscription : Subscription) : Subscription :=
    if subscription.active then { subscription with lastTriggeredAt := some now } else subscription
  { registry with
    subscriptions := registry.subscriptions.modify conditionId (fun list => list.map touched) }

def activeSubscriptionCount (registry : Registry) : Nat :=
  registry.subscriptions.values.foldl
    (fun count list => count + (list.filter Subscription.active).length) 0

end Registry

end CandleAlerts
