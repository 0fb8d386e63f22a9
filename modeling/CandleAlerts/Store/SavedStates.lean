import CandleAlerts.Registry.Basic

/-!
Saved states: the states of the alerts as texts under keys, from which an alert goes on after a
restart.
-/

namespace CandleAlerts

def stateKey (alertId : String) : String := "alertflow:alert_state:" ++ alertId

abbrev SavedStates := Table String

/-- How long a saved state is kept, in seconds. -/
def savedStateLifetime : Nat := 3600

namespace SavedStates

def save (saved : SavedStates) (registry : Registry) : SavedStates :=
  registry.runtimes.entries.foldl
    (fun saved entry => saved.insert (stateKey entry.1) entry.2.text) saved

/-- The saved state of an alert. There is no answer when it cannot be read. -/
def load? (saved : SavedStates) (alertId : String) : Option (Option AlertRuntime) :=
  match saved.get? (stateKey alertId) with
  | none => some none
  | some text => (AlertRuntime.parse? text).map some

end SavedStates

end CandleAlerts
