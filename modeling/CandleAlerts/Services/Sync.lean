import CandleAlerts.Registry.Sync
import CandleAlerts.Services.Basic

/-!
Synchronizing the registry with storage that may be down.

Alerts and subscriptions are synchronized one after the other, so the alerts are up to date even
when the subscriptions could not be read.
-/

namespace CandleAlerts.Services

/-- Synchronize; the part that is down, if one stopped it. -/
def sync (services : Services) (saved : Option SavedStates) (defaultFireMode : FireMode) :
    Except ServicePart SyncReport × Services :=
  if services.works .loadActiveAlerts then
    let (report, journal, registry) := services.registry.syncAlerts saved defaultFireMode
      services.store.activeAlerts services.registry.epoch
    let services := { services with registry }.note journal
    if services.works .loadActiveSubscriptions then
      let (report, registry) :=
        services.registry.syncSubscriptions report services.store.activeSubscriptions
      (.ok report, { services with registry })
    else (.error .loadActiveSubscriptions, services)
  else (.error .loadActiveAlerts, services)

end CandleAlerts.Services
