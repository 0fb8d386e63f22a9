import CandleAlerts.Alert.Runtime
import CandleAlerts.Subscription

/-!
The registry of the alerts that are evaluated.

Each registered alert has a runtime cell. An edit gives the alert a new cell, into which the lasting
part of the old state is copied; the old cell stays, for an evaluation under way may still hold it.
The epoch counts direct changes, so that a reading of storage that began earlier cannot undo them.
-/

namespace CandleAlerts

/-- A registered alert and the place of its runtime cell. -/
structure Registered where
  alert : Alert
  cell : Nat

/-- The alerts that are evaluated and the subscriptions to their conditions. -/
structure Registry where
  alerts : Table Registered := Table.empty
  cells : Array AlertRuntime := #[]
  /-- The subscriptions by condition id, those given up among them. -/
  subscriptions : Table (List Subscription) := Table.empty
  /-- How many direct changes there were. -/
  epoch : Nat := 0
  /-- The epoch of the latest direct change of an id, as long as a reading of storage may have begun
  before it. -/
  changedAt : Table Nat := Table.empty

/-- What registering an alert came to. -/
inductive Activation where
  | added
  | updated
  | unchanged
deriving DecidableEq

def Activation.text : Activation → String
  | added => "added"
  | updated => "updated"
  | unchanged => "unchanged"

namespace Registry

def cell (registry : Registry) (place : Nat) : AlertRuntime :=
  (registry.cells[place]?).getD {}

def setCell (registry : Registry) (place : Nat) (runtime : AlertRuntime) : Registry :=
  { registry with cells := registry.cells.setIfInBounds place runtime }

def get? (registry : Registry) (id : String) : Option Registered :=
  registry.alerts.get? id

def runtime? (registry : Registry) (id : String) : Option AlertRuntime :=
  (registry.get? id).map (fun entry => registry.cell entry.cell)

/-- The state of every registered alert, by id. -/
def runtimes (registry : Registry) : Table AlertRuntime :=
  registry.alerts.mapValues (fun _ entry => registry.cell entry.cell)

/-- Note a direct change. -/
def markChanged (registry : Registry) (id : String) : Registry :=
  { registry with
    epoch := registry.epoch + 1
    changedAt := registry.changedAt.insert id (registry.epoch + 1) }

/-- Whether an id was changed directly after an epoch. -/
def changedSince (registry : Registry) (id : String) (epoch : Nat) : Bool :=
  match registry.changedAt.get? id with
  | some changed => epoch < changed
  | none => false

def register (registry : Registry) (alert : Alert) (runtime : AlertRuntime) : Registry :=
  { registry with
    alerts := registry.alerts.insert alert.id { alert, cell := registry.cells.size }
    cells := registry.cells.push runtime }

/-- Add an alert, or replace its definition. An unchanged definition keeps its cell. -/
def upsert (registry : Registry) (alert : Alert) (initial : Option AlertRuntime) :
    Activation × Registry :=
  match registry.get? alert.id with
  | some existing =>
      if existing.alert == alert then (.unchanged, registry)
      else (.updated, registry.register alert (registry.cell existing.cell).afterEdit)
  | none => (.added, registry.register alert (initial.getD {}))

def activate (registry : Registry) (alert : Alert) (initial : Option AlertRuntime) :
    Activation × Registry :=
  (registry.markChanged alert.id).upsert alert initial

/-- Deactivate an alert directly; whether it was registered. -/
def deactivate (registry : Registry) (id : String) : Bool × Registry :=
  (registry.alerts.contains id,
   { registry.markChanged id with alerts := registry.alerts.erase id })

end Registry

end CandleAlerts
