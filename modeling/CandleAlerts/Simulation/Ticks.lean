import CandleAlerts.Simulation.Dispatches

/-!
Ticks in virtual time.

A tick evaluates every group whose timeframe is scanned, so many at once, each within a time limit.
A group then waits, as long again, for the dispatches of its events; those that take longer go on
without it. The tick ends when all of its groups have ended.
-/

namespace CandleAlerts.Simulation.State

/-- Let the next tick of the running scheduler happen when it is due. -/
def planTick (state : State) : State :=
  match state.schedule with
  | some due => state.plan (max due state.time) .tickDue
  | none => state

/-- End the tick if no group is left. -/
def settleTick (state : State) : State :=
  match state.tick with
  | none => state
  | some tick =>
      if tick.groups.all (fun entry => match entry.2 with
          | .ended => true
          | _ => false) then
        { state with tick := none, tickReports := state.tickReports ++ [tick.report] }.planTick
      else state

/-- Change the tick under way, if it is the one of a number. -/
def onTick (state : State) (number : Nat) (change : Tick → State → State) : State :=
  match state.tick with
  | some tick => if tick.number = number then change tick state else state
  | none => state

def setPhase (state : State) (tick : Tick) (place : Nat) (phase : GroupPhase) : State :=
  { state with
    tick := some { tick with
      groups := tick.groups.modify place (fun entry => (entry.1, phase)) } }

def endGroup (state : State) (place : Nat) (note : TickReport → TickReport) : State :=
  match state.tick with
  | none => state
  | some tick => (state.setPhase { tick with report := note tick.report } place .ended).settleTick

def failGroup (state : State) (place : Nat) (reason : String) : State :=
  { state with services := state.services.count (.groupFailures reason) 1 }.endGroup place
    (fun report => { report with groupsFailed := report.groupsFailed + 1 })

def completeGroup (state : State) (place count : Nat) : State :=
  state.endGroup place (fun report => { report with triggers := report.triggers + count })

def releasePermit (state : State) : State :=
  match state.tick with
  | none => state
  | some tick =>
      match tick.queue with
      | [] => { state with tick := some { tick with permits := tick.permits + 1 } }
      | next :: rest =>
          { state with tick := some { tick with queue := rest } }.plan state.time
            (.groupAdmitted tick.number next)

def detachGroup (setting : Setting) (state : State) (group : Group) (place count : Nat) : State :=
  state.onServices (fun services =>
    services.note ((({} : Journal).count .dispatchesDetached count).warn
      (.dispatchDetached group.key.symbol group.key.timeframe count
        (setting.scheduler.groupTimeout / 1000))))
    |>.completeGroup place count

def handOne (tick place : Nat) (state : State) (fired : Fired) : State :=
  let (number, state) := state.takeNumber
  state.plan state.time (.errandReady
    { number, alert := fired.alert, event := fired.event, group := some (tick, place) })

/-- Hand over the events of a group and wait for their dispatch. -/
def handOver (setting : Setting) (state : State) (tick : Nat) (group : Group) (place : Nat)
    (fired : List Fired) : State :=
  let state := fired.foldl (handOne tick place) state
  if fired.isEmpty then state.completeGroup place 0
  else if setting.scheduler.groupTimeout = 0 then state.detachGroup setting group place fired.length
  else
    (state.onTick tick (fun current state =>
      state.setPhase current place (.dispatching fired.length fired.length))).plan
      (state.time + setting.timer setting.scheduler.groupTimeout) (.groupBudgetSpent tick place)

def evaluateGroup (setting : Setting) (state : State) (tick : Tick) (group : Group) (place : Nat)
    (fetched : Except MissingData (List Candle)) : State :=
  let pass := state.services.registry.passGroup state.indicators group fetched tick.now
    (setting.reached tick.number place)
  let state := { state with
    services := { state.services with registry := pass.registry }.note pass.journal
    computations := state.computations ++ pass.computations
    found := state.found ++ pass.found
    lost := state.lost ++ pass.lost }.releasePermit
  match pass.result with
  | .error failure =>
      { state with services := state.services.note (failure.journal group) }.failGroup place
        failure.reason
  | .ok fired =>
      { state with services := state.services.count .groupsEvaluated 1 }.handOver setting
        tick.number group place fired

def receiveFetch (setting : Setting) (state : State) (tick : Tick) (group : Group) (place : Nat) :
    FetchResult → State
  | .crash => state.releasePermit.failGroup place GroupFailure.crash.reason
  | .fetched fetched => state.evaluateGroup setting tick group place fetched

/-- The next reply of the market to a group: by its symbol and timeframe, else by its symbol.
Without a script there are no candles. -/
def marketReply (state : State) (key : GroupKey) : Reply MarketAnswer × State :=
  let narrow := key.symbol ++ "@" ++ key.timeframe.text
  let name := if state.market.contains narrow then narrow else key.symbol
  let (reply, rest) := Script.next (state.market.getD name [])
  (reply.getD { answer := .candles [] },
   if state.market.contains name then { state with market := state.market.insert name rest }
   else state)

/-- How long a group waits for the market, and what it learns. -/
def fetchResult (setting : Setting) (reply : Reply MarketAnswer) : Nat × FetchResult :=
  let timeout := setting.scheduler.groupTimeout
  if setting.timer timeout < setting.timer reply.delay then
    (setting.timer timeout, .fetched (.error (.timeout timeout)))
  else (setting.timer reply.delay, match reply.answer with
    | .candles candles => .fetched (.ok candles)
    | .failure reason => .fetched (.error (.fetch reason))
    | .crash => .crash)

def beginFetch (setting : Setting) (state : State) (tick place : Nat) : State :=
  state.onTick tick (fun current state =>
    match current.groups[place]? with
    | none => state
    | some (group, _) =>
        let fetch : Fetch :=
          { time := state.time, key := group.key, limit := setting.scheduler.candleLimit }
        let (reply, state) :=
          { state with fetches := state.fetches ++ [fetch] }.marketReply group.key
        let (duration, result) := fetchResult setting reply
        if duration = 0 then state.receiveFetch setting current group place result
        else
          (state.setPhase current place (.fetching result)).plan (state.time + duration)
            (.groupFetched tick place))

/-- Evaluate a group if another may be under way; otherwise it waits. -/
def admitGroup (setting : Setting) (state : State) (tick place : Nat) : State :=
  state.onTick tick (fun current state =>
    if current.permits = 0 then
      { state with tick := some { current with queue := current.queue ++ [place] } }
    else
      { state with tick := some { current with permits := current.permits - 1 } }.beginFetch
        setting tick place)

def finishFetch (setting : Setting) (state : State) (tick place : Nat) : State :=
  state.onTick tick (fun current state =>
    match current.groups[place]? with
    | some (group, .fetching result) => state.receiveFetch setting current group place result
    | _ => state)

def noteErrandDone (state : State) (tick place : Nat) : State :=
  state.onTick tick (fun current state =>
    match current.groups[place]? with
    | some (_, .dispatching left count) =>
        if left ≤ 1 then state.completeGroup place count
        else state.setPhase current place (.dispatching (left - 1) count)
    | _ => state)

/-- A group has waited long enough for its dispatches. -/
def spendBudget (setting : Setting) (state : State) (tick place : Nat) : State :=
  state.onTick tick (fun current state =>
    match current.groups[place]? with
    | some (group, .dispatching _ count) => state.detachGroup setting group place count
    | _ => state)

/-- Take a group into a tick, or report that its timeframe is not scanned. -/
def enterGroup (setting : Setting) (entered : Tick × State) (group : Group) : Tick × State :=
  let (tick, state) := entered
  if setting.scheduler.timeframes.contains group.key.timeframe then
    ({ tick with
       groups := tick.groups.push (group, .waiting)
       report := { tick.report with groups := tick.report.groups + 1 } },
     state.plan state.time (.groupReady tick.number tick.groups.size))
  else
    let tick := { tick with
      report := { tick.report with
        skippedAlerts := tick.report.skippedAlerts + group.members.length } }
    if state.unscanned.contains group.key then (tick, state)
    else
      (tick, { state with
        unscanned := state.unscanned ++ [group.key]
        services := state.services.note (({} : Journal).warn (.timeframeNotScanned
          group.key.symbol group.key.timeframe group.members.length)) })

def beginTick (setting : Setting) (state : State) (now : Instant) : State :=
  let (number, state) := state.takeNumber
  let tick : Tick := { number, now, permits := setting.scheduler.maxConcurrentGroups }
  let (tick, state) := state.services.registry.groups.foldl (enterGroup setting)
    (tick, { state with services := state.services.count .ticks 1 })
  { state with tick := some tick }.settleTick

end CandleAlerts.Simulation.State
