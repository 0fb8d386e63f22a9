import CandleAlerts.Definition.Alert
import CandleAlerts.Journal
import CandleAlerts.Registry.Reconcile
import CandleAlerts.Registry.Subscriptions
import CandleAlerts.Store.Basic
import CandleAlerts.Store.SavedStates

/-!
Bringing the registry up to date with storage.

A synchronization takes the epoch, reads the active definitions, and reconciles. Definitions that
are refused are reported and passed over. An alert that is not yet registered goes on from its saved
state.
-/

namespace CandleAlerts

/-- What a synchronization did. -/
structure SyncReport where
  active : Nat := 0
  added : Nat := 0
  updated : Nat := 0
  removed : Nat := 0
  restored : Nat := 0
  invalid : Nat := 0
  skipped : Nat := 0
  subscriptions : Nat := 0
deriving DecidableEq

def SyncReport.toJson (report : SyncReport) : Json := .object
  [("active", .ofNat report.active), ("added", .ofNat report.added),
   ("updated", .ofNat report.updated), ("removed", .ofNat report.removed),
   ("restored", .ofNat report.restored), ("invalid", .ofNat report.invalid),
   ("skipped", .ofNat report.skipped), ("subscriptions", .ofNat report.subscriptions)]

/-- The definition of a record; one that does not name an id gets that of the record. -/
def AlertRecord.identified (record : AlertRecord) : Json :=
  match record.definition with
  | .object members =>
      if (Json.lookup? members "id").isSome then record.definition
      else .object (members ++ [("id", .string record.id)])
  | other => other

def AlertRecord.readAlert (record : AlertRecord) (defaultFireMode : FireMode) :
    Except DefinitionError Alert :=
  Definition.readAlert record.identified.normal defaultFireMode

structure StoredReading where
  stored : List (Alert × Option AlertRuntime) := []
  restored : Nat := 0
  journal : Journal := {}

namespace StoredReading

/-- Read one record. Only an alert that is not registered has its saved state loaded. -/
def take (registry : Registry) (saved : Option SavedStates) (defaultFireMode : FireMode)
    (reading : StoredReading) (record : AlertRecord) : StoredReading :=
  match record.readAlert defaultFireMode with
  | .error refusal =>
      { reading with
        journal := reading.journal.warn (.definitionInvalid record.id refusal.message) }
  | .ok alert =>
      let initial := match saved with
        | some saved =>
            if (registry.get? alert.id).isSome then none else (saved.load? alert.id).join
        | none => none
      { reading with
        stored := reading.stored ++ [(alert, initial)]
        restored := reading.restored + (if initial.isSome then 1 else 0) }

def of (registry : Registry) (saved : Option SavedStates) (defaultFireMode : FireMode)
    (records : List AlertRecord) : StoredReading :=
  records.foldl (take registry saved defaultFireMode) {}

end StoredReading

namespace Registry

/-- Bring the registry's alerts up to date with the records read since an epoch. -/
def syncAlerts (registry : Registry) (saved : Option SavedStates) (defaultFireMode : FireMode)
    (records : List AlertRecord) (since : Nat) : SyncReport × Journal × Registry :=
  let reading := StoredReading.of registry saved defaultFireMode records
  let (applied, registry) := registry.reconcile reading.stored since
  ({ active := reading.stored.length
     added := applied.added
     updated := applied.updated
     removed := applied.removed
     restored := reading.restored
     invalid := reading.journal.warnings.length
     skipped := applied.skipped }, reading.journal, registry)

/-- Bring the registry's subscriptions up to date with those read from storage. -/
def syncSubscriptions (registry : Registry) (report : SyncReport)
    (subscriptions : List Subscription) : SyncReport × Registry :=
  ({ report with subscriptions := subscriptions.length },
   registry.replaceSubscriptions subscriptions)

/-- Synchronize with a store that nothing else changes meanwhile. -/
def sync (registry : Registry) (saved : Option SavedStates) (defaultFireMode : FireMode)
    (store : Store) : SyncReport × Journal × Registry :=
  let (report, journal, registry) :=
    registry.syncAlerts saved defaultFireMode store.activeAlerts registry.epoch
  let (report, registry) := registry.syncSubscriptions report store.activeSubscriptions
  (report, journal, registry)

end Registry

end CandleAlerts
