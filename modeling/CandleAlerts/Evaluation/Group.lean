import CandleAlerts.Evaluation.GroupSnapshot
import CandleAlerts.Journal
import CandleAlerts.Trigger.Event

/-!
Evaluating a group: one snapshot, every alert evaluated on it, and the events of those that fire.

The alerts of a group are evaluated side by side. When one of these evaluations crashes, those of
other alerts have been completed or not, their events are lost, and the group fails.
-/

namespace CandleAlerts

/-- Why a group was not evaluated. -/
inductive MissingData where
  | fetch (reason : String)
  | empty
  | timeout (milliseconds : Nat)
deriving DecidableEq

namespace MissingData

def message : MissingData → String
  | fetch reason => "market data fetch failed: " ++ reason
  | empty => "market data source returned no candles"
  | timeout milliseconds => "group evaluation timed out after " ++ spanText milliseconds

def reason : MissingData → String
  | fetch _ => "fetch"
  | empty => "empty"
  | timeout _ => "timeout"

end MissingData

/-- Why a group failed: for want of candles, or because an evaluation crashed. -/
inductive GroupFailure where
  | missing (data : MissingData)
  | crash
deriving DecidableEq

namespace GroupFailure

def reason : GroupFailure → String
  | missing data => data.reason
  | crash => "panic"

/-- What is noted of a group that failed. -/
def journal (group : Group) : GroupFailure → Journal
  | missing data => ({} : Journal).warn
      (.groupSkipped group.key.symbol group.key.timeframe group.members.length data.message)
  | crash => {}

end GroupFailure

structure Fired where
  alert : Alert
  event : TriggerEvent

/-- The alert that fired, by id, and the opening time of the bar. -/
def Fired.pair (fired : Fired) : String × Int := (fired.event.alertId, fired.event.barTime)

/-- What one evaluation of an alert came to. -/
structure AlertPass where
  runtime : AlertRuntime
  /-- Whether the logic triggered, also when the alert may not fire again. -/
  triggered : Bool := false
  event : Option TriggerEvent := none
  journal : Journal := {}

namespace AlertRuntime

/-- Keep count of evaluations in a row that missed a value; whether to report the alert, which
happens once in such a row. -/
def trackMissing (runtime : AlertRuntime) (outcome : LogicOutcome) : Bool × AlertRuntime :=
  if outcome.missing.isEmpty then
    (false, { runtime with missingStreak := 0, warnedUnresolvable := false })
  else
    let streak := runtime.missingStreak + 1
    let warns := missingValueWarnAfter ≤ streak && !runtime.warnedUnresolvable
    (warns,
     { runtime with
       missingStreak := streak
       warnedUnresolvable := runtime.warnedUnresolvable || warns })

end AlertRuntime

namespace Alert

def unresolvedWarning (alert : Alert) (runtime : AlertRuntime) (outcome : LogicOutcome) : Warning :=
  .conditionNeverResolves alert.id runtime.missingStreak.toNat
    (outcome.missing.map (fun entry => entry.1 ++ ": " ++ entry.2.message))

/-- Evaluate an alert on a snapshot whose latest base bar is `bar`, if the evaluation does not
crash. -/
def pass (alert : Alert) (snapshot : Snapshot) (bar : Candle) (now : Instant)
    (runtime : AlertRuntime) : AlertPass :=
  let outcome := alert.evaluate snapshot runtime.latches now
  let (warns, runtime) := { runtime with
    latches := outcome.latches
    lastEvaluatedAt := some now }.trackMissing outcome
  let journal : Journal :=
    if warns then ({} : Journal).warn (alert.unresolvedWarning runtime outcome) else {}
  if !outcome.triggered then { runtime, journal }
  else if runtime.mayFire bar.time then
    { runtime := runtime.recordFired bar.time now
      triggered := true
      event := some (.of alert bar outcome now)
      journal := journal.count .triggers 1 }
  else { runtime, triggered := true, journal := journal.count .firesSuppressed 1 }

end Alert

/-- The registry after some members of a group were evaluated, and what came of it. -/
structure MembersPass where
  registry : Registry
  /-- The alerts whose logic triggered, by id, and the opening time of the bar. -/
  found : List (String × Int) := []
  fired : List Fired := []
  journal : Journal := {}

def MembersPass.visit (snapshot : Snapshot) (bar : Candle) (now : Instant) (sofar : MembersPass)
    (member : Registered) : MembersPass :=
  let pass := member.alert.pass snapshot bar now (sofar.registry.cell member.cell)
  { registry := sofar.registry.setCell member.cell pass.runtime
    found := sofar.found ++ if pass.triggered then [(member.alert.id, bar.time)] else []
    fired := sofar.fired ++ (pass.event.map (fun event => ⟨member.alert, event⟩)).toList
    journal := sofar.journal ++ pass.journal }

/-- What the evaluation of a group came to. -/
structure GroupPass where
  result : Except GroupFailure (List Fired)
  registry : Registry
  /-- What was found if the group did not fail. -/
  found : List (String × Int) := []
  /-- What fired if the group failed. -/
  lost : List (String × Int) := []
  journal : Journal := {}
  computations : List Computation := []

/-- What the evaluation of a group came to, by the pass over its members. -/
def MembersPass.conclude (pass : MembersPass) (survived : Bool) : GroupPass :=
  if survived then
    { result := .ok pass.fired
      registry := pass.registry
      found := pass.found
      journal := pass.journal }
  else
    { result := .error .crash
      registry := pass.registry
      lost := pass.fired.map Fired.pair
      journal := pass.journal }

namespace Registry

/-- Whether the evaluation of an alert is completed. -/
def survives (registry : Registry) (snapshot : Snapshot) (now : Instant) (member : Registered) :
    Bool :=
  !(member.alert.evaluate snapshot (registry.cell member.cell).latches now).crashed

def allSurvive (registry : Registry) (group : Group) (snapshot : Snapshot) (now : Instant) : Bool :=
  group.members.all (registry.survives snapshot now)

/-- The members of a group whose evaluations are completed. When one crashes, `reached` tells which
of the others had their turn. -/
def completed (registry : Registry) (group : Group) (snapshot : Snapshot) (now : Instant)
    (reached : Registered → Bool) : List Registered :=
  if registry.allSurvive group snapshot now then group.members
  else group.members.filter (fun member => reached member && registry.survives snapshot now member)

def passMembers (registry : Registry) (members : List Registered) (snapshot : Snapshot)
    (bar : Candle) (now : Instant) : MembersPass :=
  members.foldl (MembersPass.visit snapshot bar now) { registry }

def passCandles (registry : Registry) (engine : IndicatorEngine) (group : Group)
    (candles : List Candle) (now : Instant) (reached : Registered → Bool) : GroupPass :=
  match candles.getLast? with
  | none => { result := .error (.missing .empty), registry }
  | some bar =>
      let (snapshot, computations) :=
        Snapshot.ofGroup engine group.key (group.members.map Registered.alert) candles
      let pass := (registry.passMembers (registry.completed group snapshot now reached) snapshot bar
        now).conclude (registry.allSurvive group snapshot now)
      { pass with
        journal := (({} : Journal).count .indicatorComputations
          (computations.filter (fun computation => computation.columns.isSome)).length) ++
            pass.journal
        computations }

def passGroup (registry : Registry) (engine : IndicatorEngine) (group : Group)
    (fetched : Except MissingData (List Candle)) (now : Instant) (reached : Registered → Bool) :
    GroupPass :=
  match fetched with
  | .error data => { result := .error (.missing data), registry }
  | .ok candles =>
      let pass := registry.passCandles engine group candles now reached
      { pass with journal := (({} : Journal).count .marketFetches 1) ++ pass.journal }

end Registry

end CandleAlerts
