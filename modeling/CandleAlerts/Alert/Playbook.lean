import CandleAlerts.Alert.Basic
import CandleAlerts.Alert.Latch
import CandleAlerts.Condition.Evaluation
import CandleAlerts.Table

/-!
One pass over an alert's logic.

The logic joins the answers to its conditions, wherever they come from; those of a pass come from a
snapshot. A flat list of conditions is joined as a whole. The enabled entries of a playbook are
visited in the order of their priorities; an entry whose latch holds counts as satisfied without
being evaluated, and each entry is joined by its connector to the value of those before it.

A pass crashes when it would latch an entry beyond the end of the calendar.
-/

namespace CandleAlerts

/-- The latches of a playbook, by entry id. -/
abbrev Latches := Table Latch

/-- The result of one pass. -/
structure LogicOutcome where
  triggered : Bool := false
  satisfied : List String := []
  failed : List String := []
  /-- The latches to keep; they replace those that went into the pass. -/
  latches : Latches := Table.empty
  missing : List (String × MissingValue) := []
  /-- Whether the pass crashed. Then there is nothing that it came to. -/
  crashed : Bool := false

def LogicOutcome.note (outcome : LogicOutcome) (id : String) (evaluation : Evaluation) :
    LogicOutcome :=
  let outcome := match evaluation.missing with
    | some reason => { outcome with missing := outcome.missing ++ [(id, reason)] }
    | none => outcome
  if evaluation.satisfied then { outcome with satisfied := outcome.satisfied ++ [id] }
  else { outcome with failed := outcome.failed ++ [id] }

/-- Join the answers to a flat list of conditions, which go by their positions. -/
def joinConditions (answer : Condition → Evaluation) (conditions : List Condition) (logic : Logic) :
    LogicOutcome :=
  let outcome : LogicOutcome := conditions.zipIdx.foldl (fun outcome entry =>
    outcome.note (toString entry.2) (answer entry.1)) {}
  let triggered := match logic with
    | .all => outcome.failed.isEmpty
    | .any => !outcome.satisfied.isEmpty
  { outcome with triggered := !conditions.isEmpty && triggered }

/-- The moment a pass happens at: the number and opening time of the latest base bar, and the time
itself. -/
structure PassMoment where
  barIndex : Int
  barTime : Instant
  now : Instant

/-- The moment of a pass over a snapshot. Without bars the bar number is the least word; a bar time
off the calendar is replaced by the time of the pass. -/
def PassMoment.of (snapshot : Snapshot) (now : Instant) : PassMoment :=
  { barIndex := snapshot.barIndex?.getD Word.least
    barTime := (snapshot.barTime?.bind Instant.ofSeconds?).getD now
    now }

namespace PlaybookEntry

def newLatch (entry : PlaybookEntry) (moment : PassMoment) : Latch :=
  match entry.validityUnit with
  | .bars => .bars moment.barIndex entry.validity
  | .minutes => .time moment.barTime (moment.barTime.addMinutes entry.validity)

/-- Whether a new latch ends within the calendar. -/
def latchFits (entry : PlaybookEntry) (moment : PassMoment) : Bool :=
  match entry.validityUnit with
  | .bars => true
  | .minutes => moment.barTime.hasMinutesLeft entry.validity

def heldBy? (entry : PlaybookEntry) (latches : Latches) (moment : PassMoment) : Option Latch :=
  (latches.get? entry.id).filter (fun latch => latch.isValid moment.barIndex moment.now)

def join (entry : PlaybookEntry) (satisfied : Bool) : Option Bool → Bool
  | none => satisfied
  | some before =>
      match entry.connector with
      | .all => before && satisfied
      | .any => before || satisfied

end PlaybookEntry

/-- A pass under way: what it came to so far, and the joined value of the entries visited. -/
structure PlaybookPass where
  outcome : LogicOutcome := {}
  joined : Option Bool := none

def PlaybookPass.visit (answer : Condition → Evaluation) (latches : Latches) (moment : PassMoment)
    (pass : PlaybookPass) (entry : PlaybookEntry) : PlaybookPass :=
  let keep (latch : Latch) : Latches := pass.outcome.latches.insert entry.id latch
  match entry.heldBy? latches moment with
  | some latch =>
      { outcome := { pass.outcome with latches := keep latch }.note entry.id ⟨true, none⟩
        joined := some (entry.join true pass.joined) }
  | none =>
      let evaluation := answer entry.condition
      let latched := evaluation.satisfied && 0 < entry.validity
      let kept := if latched then keep (entry.newLatch moment) else pass.outcome.latches
      let crashed := pass.outcome.crashed || (latched && !entry.latchFits moment)
      { outcome := { pass.outcome with latches := kept, crashed }.note entry.id evaluation
        joined := some (entry.join evaluation.satisfied pass.joined) }

namespace Playbook

/-- The enabled entries by priority; entries of one priority stay in the order they were given. -/
def enabledInOrder (playbook : Playbook) : List PlaybookEntry :=
  (playbook.entries.filter PlaybookEntry.enabled).mergeSort
    (fun first second => first.priority ≤ second.priority)

def pass (playbook : Playbook) (answer : Condition → Evaluation) (latches : Latches)
    (moment : PassMoment) : PlaybookPass :=
  playbook.enabledInOrder.foldl (PlaybookPass.visit answer latches moment) {}

def join (playbook : Playbook) (answer : Condition → Evaluation) (latches : Latches)
    (moment : PassMoment) : LogicOutcome :=
  let pass := playbook.pass answer latches moment
  let joined := pass.joined.getD false
  let triggered := match playbook.gate with
    | .all => joined
    | .any => joined || !pass.outcome.satisfied.isEmpty
  { pass.outcome with triggered }

def evaluate (playbook : Playbook) (snapshot : Snapshot) (latches : Latches) (now : Instant) :
    LogicOutcome :=
  playbook.join snapshot.evaluate latches (.of snapshot now)

end Playbook

def Alert.join (alert : Alert) (answer : Condition → Evaluation) (latches : Latches)
    (moment : PassMoment) : LogicOutcome :=
  match alert.logic with
  | .conditions conditions logic => joinConditions answer conditions logic
  | .playbook playbook => playbook.join answer latches moment

def Alert.evaluate (alert : Alert) (snapshot : Snapshot) (latches : Latches) (now : Instant) :
    LogicOutcome :=
  alert.join snapshot.evaluate latches (.of snapshot now)

end CandleAlerts
