import CandleAlerts.Subscription
import CandleAlerts.Trigger.Event

/-!
Whom an event is sent to: the alert's own action and the active subscriptions to its condition.
-/

namespace CandleAlerts

/-- A webhook that an event is sent to, of a subscription or of the alert itself. -/
structure WebhookTarget where
  subscriptionId : Option String
  url : String
  secret : String
deriving DecidableEq

/-- Whom an event is sent to. -/
structure Targets where
  webhooks : List WebhookTarget := []
  users : List String := []
  bots : List String := []

namespace Targets

def append (first second : Targets) : Targets :=
  { webhooks := first.webhooks ++ second.webhooks
    users := first.users ++ second.users
    bots := first.bots ++ second.bots }

/-- The targets of an alert's own action. A webhook without a secret of its own is signed with the
default. -/
def ofAction (alert : Alert) (defaultSecret : String) : Targets :=
  match alert.action with
  | .webhook url secret =>
      { webhooks := [{ subscriptionId := none, url, secret := secret.getD defaultSecret }] }
  | .inApp => { users := [alert.ownerId] }
  | .bot botId => { bots := [botId] }
  | .nothing => {}

def ofSubscription (defaultSecret : String) (subscription : Subscription) : Targets :=
  match subscription.recipient with
  | .webhook url secret =>
      { webhooks :=
          [{ subscriptionId := some subscription.id, url, secret := secret.getD defaultSecret }] }
  | .inApp userId => { users := [userId] }
  | .bot botId => { bots := [botId] }

/-- Texts in order and each once. -/
def distinctSorted (texts : List String) : List String :=
  (texts.mergeSort (fun first second => first ≤ second)).eraseDups

/-- Whom an event is sent to: every webhook, each user once, each bot once. -/
def of (alert : Alert) (subscriptions : List Subscription) (defaultSecret : String) : Targets :=
  let all := (subscriptions.map (ofSubscription defaultSecret)).foldl append
    (ofAction alert defaultSecret)
  { all with users := distinctSorted all.users, bots := distinctSorted all.bots }

end Targets

end CandleAlerts
