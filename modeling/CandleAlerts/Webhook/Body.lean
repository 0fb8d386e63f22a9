import CandleAlerts.Json.Write
import CandleAlerts.Trigger.Event

/-!
The bodies of webhook requests: an event with its id, the time of sending and the version of the
format, in canonical JSON.
-/

namespace CandleAlerts.Webhook

def payloadVersion : String := "1"

/-- An object with what every body carries, in normal form. Anything but an object stays as it
is. -/
def augment (payload : Json) (eventId : String) (timestamp : Int) : Json :=
  match payload with
  | .object members =>
      .object ((((Json.normalMembers members).insert "eventId" (.string eventId)).insert
        "timestamp" (.ofInt timestamp)).insert "version" (.string payloadVersion)).entries
  | other => other.normal

def body (event : TriggerEvent) (timestamp : Int) : String :=
  (augment event.toJson event.eventId timestamp).canonical

end CandleAlerts.Webhook
