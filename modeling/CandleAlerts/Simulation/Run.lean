import CandleAlerts.Simulation.Ticks

/-!
Running a simulation.

What is due is done until nothing more is due by a given time, or until something awaited has
happened.
-/

namespace CandleAlerts.Simulation.State

/-- How late a tick may be and still be followed by the next one a whole interval after it was
due. -/
def latenessAllowed : Nat := 5

/-- When the tick after one is due that was due at `due` and happens at `now`. Ticks that were
missed are left out. -/
def nextDue (interval due now : Nat) : Nat :=
  if due + latenessAllowed < now then now + interval - (now - due) % interval else due + interval

def beginDueTick (setting : Setting) (state : State) : State :=
  match state.schedule, state.tick with
  | some due, none =>
      if due ≤ state.time then
        { state with
          schedule := some (nextDue setting.scheduler.interval due state.time) }.beginTick
          setting setting.calendar
      else state
  | _, _ => state

/-- Start a scheduler that ticks at once and stops after some time. Without an interval it does not
tick. -/
def startScheduler (setting : Setting) (state : State) (duration : Nat) : State :=
  let schedule := if setting.scheduler.interval = 0 then none else some state.time
  ({ state with schedule, schedulerStopped := false }.plan
    (state.time + setting.timer duration) .schedulerStops).planTick

/-- Stop the scheduler and give up its tick. A tick that is due only now does not begin; dispatches
under way go on. -/
def stopScheduler (state : State) : State :=
  { state with tick := none, schedule := none, schedulerStopped := true }

def perform (setting : Setting) (state : State) : Task → State
  | .groupReady tick place => state.admitGroup setting tick place
  | .groupAdmitted tick place => state.beginFetch setting tick place
  | .groupFetched tick place => state.finishFetch setting tick place
  | .groupErrandDone tick place => state.noteErrandDone tick place
  | .groupBudgetSpent tick place => state.spendBudget setting tick place
  | .errandReady errand => state.admitErrand setting errand
  | .errandAdmitted errand => state.beginErrand setting errand
  | .deliveryDue errand place => state.carryOnJob setting errand place
  | .tickDue => state.beginDueTick setting
  | .schedulerStops => state.stopScheduler

/-- Do the next task if it is due by a time. -/
def step? (setting : Setting) (until? : Option Nat) (state : State) : Option State :=
  match state.agenda with
  | [] => none
  | (due, task) :: rest =>
      if until?.all (fun bound => due ≤ bound) then
        some ({ state with agenda := rest, time := max state.time due }.perform setting
          task).runRouter
      else none

/-- Do what is due by a time, or all there is, until something has happened, in at most so many
steps. -/
def runUntil (setting : Setting) (until? : Option Nat) (happened : State → Bool) :
    (steps : Nat) → State → State
  | 0, state => state
  | steps + 1, state =>
      if happened state then state
      else match state.step? setting until? with
        | some next => runUntil setting until? happened steps next
        | none => state

def settle (setting : Setting) (steps : Nat) (state : State) : State :=
  (runUntil setting (some state.time) (fun _ => false) steps state).runRouter

def advance (setting : Setting) (steps duration : Nat) (state : State) : State :=
  let bound := state.time + setting.timer duration
  { runUntil setting (some bound) (fun _ => false) steps state with time := bound }

def tickOnce (setting : Setting) (steps : Nat) (now : Instant) (state : State) :
    Option TickReport × State :=
  let state := runUntil setting none (fun state => !state.tickReports.isEmpty) steps
    ({ state with tickReports := [] }.beginTick setting now)
  (state.tickReports.head?, { state with tickReports := [] })

def runScheduler (setting : Setting) (steps duration : Nat) (state : State) : State :=
  let state := runUntil setting none schedulerStopped steps (state.startScheduler setting duration)
  { state with tickReports := [] }

def dispatchOnce (setting : Setting) (steps : Nat) (alert : Alert) (event : TriggerEvent)
    (state : State) : Option DispatchReport × State :=
  let (number, state) := state.takeNumber
  let state := runUntil setting none
    (fun state => state.dispatchReports.any (fun entry => entry.1 == number)) steps
    (state.beginErrand setting { number, alert, event, group := none })
  ((state.dispatchReports.find? (fun entry => entry.1 == number)).map Prod.snd,
   { state with dispatchReports := [] })

end CandleAlerts.Simulation.State
