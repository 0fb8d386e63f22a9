import CandleAlerts.Registry.Basic

/-!
Groups: the alerts of one symbol and timeframe, which share a snapshot.
-/

namespace CandleAlerts

/-- What the alerts of a group have in common. -/
structure GroupKey where
  symbol : String
  timeframe : Timeframe
deriving DecidableEq

namespace GroupKey

def of (alert : Alert) : GroupKey := { symbol := alert.symbol, timeframe := alert.timeframe }

/-- Groups in order: by symbol, then by the length of their bars. -/
def precedes (first second : GroupKey) : Bool :=
  first.symbol < second.symbol ||
    (first.symbol == second.symbol && first.timeframe.seconds ≤ second.timeframe.seconds)

end GroupKey

/-- A group and its members, in the order of their ids. -/
structure Group where
  key : GroupKey
  members : List Registered

namespace Registry

def groupKeys (registry : Registry) : List GroupKey :=
  (registry.alerts.values.map (fun entry => GroupKey.of entry.alert)).eraseDups.mergeSort
    GroupKey.precedes

def membersOf (registry : Registry) (key : GroupKey) : List Registered :=
  registry.alerts.values.filter (fun entry => GroupKey.of entry.alert == key)

/-- Every registered alert, by group. -/
def groups (registry : Registry) : List Group :=
  registry.groupKeys.map (fun key => { key, members := registry.membersOf key })

end Registry

end CandleAlerts
