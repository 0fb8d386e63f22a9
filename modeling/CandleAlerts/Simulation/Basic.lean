import CandleAlerts.Api.Operations
import CandleAlerts.Config
import CandleAlerts.Dispatch.Basic
import CandleAlerts.Services.BotRouter
import CandleAlerts.Evaluation.Group
import CandleAlerts.Simulation.Script

/-!
The state of a simulation.

A simulation runs the program in virtual time, which counts milliseconds and jumps from one thing
that is due to the next. What is due at one time happens in the order in which it was put on the
agenda. The calendar, and with it the clock of claims, stands still.
-/

namespace CandleAlerts.Simulation

/-- What does not change during a simulation. -/
structure Setting where
  scheduler : SchedulerSettings
  policy : Webhook.RetryPolicy
  defaultSecret : String
  mac : Mac
  /-- The moment on the calendar. -/
  calendar : Instant
  api : Api.Settings
  /-- How long a timer runs that is set to a span of time. -/
  timer : Nat → Nat := id
  /-- Which members of a group, by tick and place, have their turn although the evaluation of another
  crashes. -/
  reached : (tick place : Nat) → Registered → Bool := fun _ _ _ => true

/-- A webhook request that was made. -/
structure Call where
  time : Nat
  url : String
  eventId : String
  signature : String
  body : String

/-- Candles that were asked for. -/
structure Fetch where
  time : Nat
  key : GroupKey
  limit : Nat

/-- Where one delivery of a dispatch stands. -/
inductive DeliveryPhase where
  /-- The next attempt is made at a time. -/
  | pausing (due : Nat) (progress : Webhook.DeliveryProgress)
  /-- An attempt was made; its result comes at a time. -/
  | answering (due : Nat) (progress : Webhook.DeliveryProgress) (result : Webhook.AttemptResult)
  | crashed
  | ended (outcome : Webhook.DeliveryOutcome)

def DeliveryPhase.due? : DeliveryPhase → Option Nat
  | pausing due _ => some due
  | answering due _ _ => some due
  | _ => none

/-- An event that is to be dispatched. -/
structure Errand where
  number : Nat
  alert : Alert
  event : TriggerEvent
  /-- The group that waits for it, by tick and place; such an errand takes a slot. -/
  group : Option (Nat × Nat)

/-- A dispatch under way. -/
structure Job where
  errand : Errand
  dispatch : Dispatch
  deliveries : List (WebhookTarget × DeliveryPhase)

/-- What a group is going to learn from the market. -/
inductive FetchResult where
  | fetched (candles : Except MissingData (List Candle))
  | crash

/-- Where a group of a tick stands. -/
inductive GroupPhase where
  | waiting
  | fetching (result : FetchResult)
  | dispatching (left count : Nat)
  | ended

structure TickReport where
  groups : Nat := 0
  groupsFailed : Nat := 0
  triggers : Nat := 0
  skippedAlerts : Nat := 0
deriving DecidableEq

def TickReport.toJson (report : TickReport) : Json := .object
  [("groups", .ofNat report.groups), ("groups_failed", .ofNat report.groupsFailed),
   ("triggers", .ofNat report.triggers), ("skipped_alerts", .ofNat report.skippedAlerts)]

/-- A tick under way. -/
structure Tick where
  number : Nat
  now : Instant
  groups : Array (Group × GroupPhase) := #[]
  /-- How many more groups may be evaluated at once. -/
  permits : Nat
  /-- The groups that wait to be evaluated, first come first. -/
  queue : List Nat := []
  report : TickReport := {}

/-- What is put on the agenda. -/
inductive Task where
  | groupReady (tick place : Nat)
  | groupAdmitted (tick place : Nat)
  | groupFetched (tick place : Nat)
  | groupErrandDone (tick place : Nat)
  | groupBudgetSpent (tick place : Nat)
  | errandReady (errand : Errand)
  | errandAdmitted (errand : Errand)
  | deliveryDue (errand place : Nat)
  | tickDue
  | schedulerStops

structure State where
  services : Services
  time : Nat := 0
  market : Table (Script (Reply MarketAnswer)) := Table.empty
  receivers : Table (Script (Reply ReceiverAnswer)) := Table.empty
  indicators : IndicatorEngine
  /-- What is due when, earliest first. -/
  agenda : List (Nat × Task) := []
  /-- How many ticks and errands there were. -/
  numbers : Nat := 0
  tick : Option Tick := none
  /-- When the running scheduler is to tick next. -/
  schedule : Option Nat := none
  schedulerStopped : Bool := false
  /-- How many more dispatches may begin, across ticks. -/
  slots : Nat
  /-- The errands that wait for a slot, first come first. -/
  waiting : List Errand := []
  jobs : List Job := []
  /-- The groups reported as not evaluated. -/
  unscanned : List GroupKey := []
  router : Option Receiver := none
  calls : List Call := []
  fetches : List Fetch := []
  computations : List Computation := []
  /-- The alerts whose logic triggered in groups that did not fail, by id, and the opening times of
  the bars. -/
  found : List (String × Int) := []
  /-- The alerts that fired in groups that failed, by id, and the opening times of the bars. -/
  lost : List (String × Int) := []
  tickReports : List TickReport := []
  dispatchReports : List (Nat × DispatchReport) := []

namespace State

/-- A simulation in which nothing has happened yet. -/
def beginning (setting : Setting) (services : Services) (indicators : IndicatorEngine) : State :=
  { services, indicators, slots := setting.scheduler.slots }

/-- Put a task on the agenda, after all that is due no later. -/
def plan (state : State) (due : Nat) (task : Task) : State :=
  { state with
    agenda := state.agenda.takeWhile (fun entry => entry.1 ≤ due) ++
      (due, task) :: state.agenda.dropWhile (fun entry => entry.1 ≤ due) }

/-- Take a number that was not taken before. -/
def takeNumber (state : State) : Nat × State :=
  (state.numbers, { state with numbers := state.numbers + 1 })

def onServices (state : State) (change : Services → Services) : State :=
  { state with services := change state.services }

/-- Let the bot router take in what waits for it. -/
def runRouter (state : State) : State :=
  match state.router with
  | none => state
  | some receiver =>
      let (receiver, services) := state.services.routeWaiting receiver
      { state with router := some receiver, services }

end State

end CandleAlerts.Simulation
