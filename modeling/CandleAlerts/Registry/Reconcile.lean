import CandleAlerts.Registry.Basic

/-!
Making the registry agree with storage.

A reading of storage is applied with the epoch at which it began. What was changed directly after
that epoch is left alone; everything else becomes as it is stored.
-/

namespace CandleAlerts

/-- What a reconciliation did. -/
structure Reconciled where
  added : Nat := 0
  updated : Nat := 0
  removed : Nat := 0
  /-- Alerts left alone because they were changed directly in the meantime. -/
  skipped : Nat := 0
deriving DecidableEq

def Reconciled.count (report : Reconciled) : Activation → Reconciled
  | .added => { report with added := report.added + 1 }
  | .updated => { report with updated := report.updated + 1 }
  | .unchanged => report

def Reconciled.toJson (report : Reconciled) : Json := .object
  [("added", .ofNat report.added), ("updated", .ofNat report.updated),
   ("removed", .ofNat report.removed), ("skipped", .ofNat report.skipped)]

namespace Registry

def reconcileStored (since : Nat) (state : Reconciled × Registry)
    (stored : Alert × Option AlertRuntime) : Reconciled × Registry :=
  let (report, registry) := state
  if registry.changedSince stored.1.id since then
    ({ report with skipped := report.skipped + 1 }, registry)
  else
    let (activation, registry) := registry.upsert stored.1 stored.2
    (report.count activation, registry)

def keepsUnstored (registry : Registry) (since : Nat) (storedIds : List String) (id : String) :
    Bool :=
  storedIds.contains id || registry.changedSince id since

def removeUnstored (registry : Registry) (since : Nat) (storedIds : List String) : Registry :=
  { registry with
    alerts := registry.alerts.filter (fun id _ => registry.keepsUnstored since storedIds id) }

/-- Forget the direct changes that no later reading of storage can have begun before. -/
def pruneChanges (registry : Registry) (since : Nat) : Registry :=
  { registry with changedAt := registry.changedAt.filter (fun _ changed => since < changed) }

/-- Make the registry agree with the alerts read from storage since an epoch. -/
def reconcile (registry : Registry) (stored : List (Alert × Option AlertRuntime)) (since : Nat) :
    Reconciled × Registry :=
  let (report, registry) := stored.foldl (reconcileStored since) ({}, registry)
  let remaining := registry.removeUnstored since (stored.map (fun entry => entry.1.id))
  ({ report with removed := registry.alerts.size - remaining.alerts.size },
   remaining.pruneChanges since)

end Registry

end CandleAlerts
