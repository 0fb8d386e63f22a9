import CandleAlerts.Api.MediaType
import CandleAlerts.Api.Operations
import CandleAlerts.Json.Outline

/-!
From requests to operations.

The path chooses an operation, which allows one method. Operations with a JSON body refuse bodies of
another media type, malformed JSON and JSON of another shape, in this order.
-/

namespace CandleAlerts.Api

/-- The operations. -/
inductive Route where
  | activate
  | deactivate
  | state (alertId : String)
  | subscribe
  | unsubscribe
  | verify
  | status
  | metrics

namespace Route

def ofPath? (path : List Char) : Option Route :=
  let parts := (Text.splitAtEach '/' path).map String.ofList
  match parts with
  | ["", "internal", "alerts", "activate"] => some activate
  | ["", "internal", "alerts", "deactivate"] => some deactivate
  | ["", "internal", "alerts", alertId, "state"] => some (state alertId)
  | ["", "internal", "subscriptions", "subscribe"] => some subscribe
  | ["", "internal", "subscriptions", "unsubscribe"] => some unsubscribe
  | ["", "internal", "webhooks", "verify"] => some verify
  | ["", "internal", "engine", "status"] => some status
  | ["", "metrics"] => some metrics
  | _ => none

def reads : Route → Bool
  | state _ | status | metrics => true
  | _ => false

/-- Whether an operation allows a method: reading may also be asked for its head alone. -/
def allows (route : Route) (method : String) : Bool :=
  if route.reads then method == "GET" || method == "HEAD" else method == "POST"

end Route

/-- Refuse a request whose body is of another media type than JSON. -/
def Request.requireJson (request : Request) : Except Rejection Unit :=
  if ((request.textHeader? "content-type").map isJsonMediaType).getD false then .ok ()
  else .error .notJson

def Request.json (request : Request) : Except Rejection Json := do
  request.requireJson
  match Json.read? request.body with
  | some value => .ok value
  | none => .error .malformedJson

/-- The body of a request as a record. A body that is seen not to be the record is refused as such,
whatever follows; one that is the record and goes on is malformed. -/
def Request.record (request : Request) (fields : List Json.Field)
    (decode : Json.Record → Option α) : Except Rejection α := do
  request.requireJson
  let names := fields.map Json.Field.name
  let (reader, left) := Json.Reader.advance { shape := .ofFields names } request.body.toList
  if reader.outline.refutesRecord fields then .error .wrongShape
  else
    let value := if left.isEmpty then reader.result? else none
    match (value.bind (Json.Record.of? names)).bind decode with
    | some decoded => .ok decoded
    | none => .error .malformedJson

def textField (name : String) : Json.Field := ⟨name, Json.Outline.refutesText⟩

def recipientField (name : String) : Json.Field :=
  ⟨name, fun
    | .complete value => (Recipient.ofJson? value).isNone
    | outline => outline.refutesTag "type" Recipient.kinds⟩

def Request.deactivation (request : Request) : Except Rejection String :=
  request.record [textField "alert_id"] (fun record => record.required? "alert_id" Json.text?)

def Request.subscription (request : Request) : Except Rejection (String × String × Recipient) :=
  request.record
    [textField "subscriber_id", textField "condition_id", recipientField "subscriber"]
    (fun record => do
      return (← record.required? "subscriber_id" Json.text?,
        ← record.required? "condition_id" Json.text?,
        ← record.required? "subscriber" Recipient.ofJson?))

def Request.unsubscription (request : Request) : Except Rejection (String × String) :=
  request.record [textField "subscriber_id", textField "condition_id"] (fun record => do
    return (← record.required? "subscriber_id" Json.text?,
      ← record.required? "condition_id" Json.text?))

def respond : Except Refusal Json → Response
  | .ok body => { status := some 200, body := some body }
  | .error refusal => refusal.response

def onBody (services : Services) (body : Except Rejection α) (operation : α → Answer) :
    Response × Services :=
  match body with
  | .error rejection => (rejection.response, services)
  | .ok value =>
      let (answer, services) := operation value
      (respond answer, services)

def carryOut (settings : Settings) (services : Services) (request : Request) (now : Int)
    (clock : Nat) : Route → Response × Services
  | .activate => onBody services (request.json.map Json.normal) (activate settings services)
  | .deactivate => onBody services request.deactivation (deactivate services)
  | .state alertId =>
      match decodePathPart? alertId with
      | none => (Rejection.malformedPath.response, services)
      | some alertId => (respond (showState services alertId), services)
  | .subscribe => onBody services request.subscription
      (fun (subscriberId, conditionId, recipient) =>
        subscribe settings services subscriberId conditionId recipient)
  | .unsubscribe => onBody services request.unsubscription
      (fun (subscriberId, conditionId) => unsubscribe services subscriberId conditionId)
  | .verify =>
      let (answer, services) := verify settings services request now clock
      (respond answer, services)
  | .status =>
      ({ status := some 200, body := some (showStatus settings services.registry) }, services)
  | .metrics =>
      (if settings.hasMetrics then { status := some 200, body := none }
        else Refusal.unavailable.response,
       services)

def handle (settings : Settings) (services : Services) (request : Request) (now : Int)
    (clock : Nat) :
    Response × Services :=
  match Route.ofPath? (targetPath request.target.toList) with
  | none => (Rejection.noRoute.response, services)
  | some route =>
      if route.allows request.method then
        let (response, services) := carryOut settings services request now clock route
        (if request.method = "HEAD" then { response with body := none } else response, services)
      else (Rejection.wrongMethod.response, services)

end CandleAlerts.Api
