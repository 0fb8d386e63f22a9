import CandleAlerts.Simulation.Deliveries

/-!
Dispatches in virtual time.

Errands of groups take a slot each and wait for one when all are taken. A dispatch ends when its
last delivery has ended, and then gives its slot to the next errand.
-/

namespace CandleAlerts.Simulation.State

def releaseSlot (state : State) : State :=
  match state.waiting with
  | [] => { state with slots := state.slots + 1 }
  | next :: rest => { state with waiting := rest }.plan state.time (.errandAdmitted next)

def withoutJob (state : State) (number : Nat) : State :=
  { state with jobs := state.jobs.filter (fun job => job.errand.number != number) }

def endErrand (state : State) (errand : Errand) : State :=
  let state := state.withoutJob errand.number
  match errand.group with
  | none => state
  | some (tick, place) =>
      let state := state.releaseSlot
      state.plan state.time (.groupErrandDone tick place)

def outcomes? (deliveries : List (WebhookTarget × DeliveryPhase)) :
    Option (List Webhook.DeliveryOutcome) :=
  deliveries.mapM (fun delivery => match delivery.2 with
    | .ended outcome => some outcome
    | _ => none)

/-- Put on the agenda when the deliveries at some places, which were carried on just now, go on. -/
def planDeliveries (state : State) (number : Nat) (places : List Nat)
    (deliveries : List (WebhookTarget × DeliveryPhase)) : State :=
  places.foldl (fun state place =>
    match (deliveries[place]?).bind (fun delivery => delivery.2.due?) with
    | some due => state.plan due (.deliveryDue number place)
    | none => state) state

/-- The places of the deliveries that are due now, in their own order. -/
def duePlaces (state : State) (deliveries : List (WebhookTarget × DeliveryPhase)) : List Nat :=
  (List.range deliveries.length).filter (fun place =>
    match (deliveries[place]?).bind (fun delivery => delivery.2.due?) with
    | some due => due ≤ state.time
    | none => false)

/-- The most deliveries of a dispatch that are carried on in their own order. More are carried on in
the order in which they became due. -/
def orderedDeliveries : Nat := 30

/-- The places of the deliveries that are due now, in the order in which they are carried on, when
the one at a place has come up on the agenda. -/
def placesToCarryOn (state : State) (job : Job) (place : Nat) : List Nat :=
  if job.deliveries.length ≤ orderedDeliveries then state.duePlaces job.deliveries
  else
    place :: state.agenda.filterMap (fun entry => match entry with
      | (due, .deliveryDue number place) =>
          if due ≤ state.time && number == job.errand.number then some place else none
      | _ => none)

def reportDispatch (state : State) (errand : Errand) (report : DispatchReport) : State :=
  { state with dispatchReports := state.dispatchReports ++ [(errand.number, report)] }

/-- Finish a dispatch whose deliveries have ended, or keep it under way. -/
def settleJob (setting : Setting) (state : State) (job : Job) (places : List Nat) : State :=
  match outcomes? job.deliveries with
  | some outcomes =>
      let (report, services) := state.services.finishDispatch job.dispatch outcomes setting.calendar
      ({ state with services }.reportDispatch job.errand report).endErrand job.errand
  | none =>
      let state := state.withoutJob job.errand.number
      { state with jobs := state.jobs ++ [job] }.planDeliveries job.errand.number places
        job.deliveries

def startNext (setting : Setting) (event : TriggerEvent)
    (sofar : List (WebhookTarget × DeliveryPhase) × State) (target : WebhookTarget) :
    List (WebhookTarget × DeliveryPhase) × State :=
  let (started, state) := sofar
  let (phase, state) := state.startDelivery setting event target
  (started ++ [(target, phase)], state)

def startDeliveries (setting : Setting) (state : State) (dispatch : Dispatch) :
    List (WebhookTarget × DeliveryPhase) × State :=
  dispatch.webhooks.foldl (startNext setting dispatch.event) ([], state)

/-- Begin a dispatch: the first attempts are made, then the users are notified. -/
def beginJob (setting : Setting) (state : State) (errand : Errand) (dispatch : Dispatch) : State :=
  let (started, state) := state.startDeliveries setting dispatch
  let places := List.range started.length
  let (carried, state) := carryOnAll setting dispatch.event places started state
  match carried with
  | none => state.endErrand errand
  | some deliveries =>
      let (dispatch, services) := state.services.notifyUsers dispatch
      { state with services }.settleJob setting { errand, dispatch, deliveries } places

/-- Run an errand. An event that was dispatched before is left alone. -/
def beginErrand (setting : Setting) (state : State) (errand : Errand) : State :=
  let (dispatch, services) := state.services.beginDispatch errand.alert errand.event
    setting.defaultSecret setting.calendar 0
  let state := { state with services }
  match dispatch with
  | none => (state.reportDispatch errand { duplicate := true }).endErrand errand
  | some dispatch => state.beginJob setting errand dispatch

/-- Run an errand if there is a slot for it; otherwise it waits. -/
def admitErrand (setting : Setting) (state : State) (errand : Errand) : State :=
  if state.slots = 0 then { state with waiting := state.waiting ++ [errand] }
  else { state with slots := state.slots - 1 }.beginErrand setting errand

/-- Carry a dispatch on, one delivery of which has come up on the agenda. -/
def carryOnJob (setting : Setting) (state : State) (number place : Nat) : State :=
  match state.jobs.find? (fun job => job.errand.number == number) with
  | none => state
  | some job =>
      let due := state.duePlaces job.deliveries
      let places := (state.placesToCarryOn job place).filter due.contains
      let (carried, state) := carryOnAll setting job.dispatch.event places job.deliveries state
      match carried with
      | none => state.endErrand job.errand
      | some deliveries => state.settleJob setting { job with deliveries } places

end CandleAlerts.Simulation.State
