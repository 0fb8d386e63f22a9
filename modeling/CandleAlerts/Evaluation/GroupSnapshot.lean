import CandleAlerts.Alert.Basic
import CandleAlerts.Market.Resample
import CandleAlerts.Market.Snapshot
import CandleAlerts.Registry.Group

/-!
The snapshot that the alerts of a group share.

The candles of the group make up the base frame, and each longer timeframe that some alert reads a
further one. Every distinct indicator is computed once on each timeframe it is needed on.
-/

namespace CandleAlerts

abbrev IndicatorNeed := Timeframe × IndicatorSpec

def IndicatorNeed.same (first second : IndicatorNeed) : Bool :=
  first.1 == second.1 && first.2.same second.2

structure Computation where
  need : IndicatorNeed
  /-- How many candles it was given. -/
  candleCount : Nat
  columns : Option Columns

def neededTimeframes (alerts : List Alert) : List Timeframe :=
  (alerts.flatMap Alert.requiredTimeframes).eraseDups

def neededIndicators (alerts : List Alert) : List IndicatorNeed :=
  (alerts.flatMap Alert.requiredIndicators).eraseDupsBy IndicatorNeed.same

namespace Snapshot

/-- The snapshot with the frame of one more timeframe, if the candles of the group make it up. -/
def withTimeframe (key : GroupKey) (candles : List Candle) (snapshot : Snapshot)
    (timeframe : Timeframe) : Snapshot :=
  if timeframe = key.timeframe then snapshot
  else match resample? key.timeframe timeframe candles with
    | some bars => snapshot.withFrame { timeframe, candles := bars }
    | none => snapshot

/-- The frames of a group, without indicators. A timeframe that the candles cannot make up has no
frame. -/
def framesOf (key : GroupKey) (timeframes : List Timeframe) (candles : List Candle) : Snapshot :=
  timeframes.foldl (withTimeframe key candles)
    (.ofFrame key.symbol { timeframe := key.timeframe, candles })

def compute (snapshot : Snapshot) (engine : IndicatorEngine) (needs : List IndicatorNeed) :
    List Computation :=
  needs.filterMap (fun need =>
    (snapshot.frame? need.1).map (fun frame =>
      { need, candleCount := frame.candles.length, columns := engine frame.candles need.2 }))

def withComputation (snapshot : Snapshot) (computation : Computation) : Snapshot :=
  match computation.columns, snapshot.frame? computation.need.1 with
  | some columns, some frame => snapshot.withFrame (frame.withIndicator computation.need.2 columns)
  | _, _ => snapshot

def ofGroup (engine : IndicatorEngine) (key : GroupKey) (alerts : List Alert)
    (candles : List Candle) : Snapshot × List Computation :=
  let frames := framesOf key (neededTimeframes alerts) candles
  let computations := frames.compute engine (neededIndicators alerts)
  (computations.foldl withComputation frames, computations)

end Snapshot

end CandleAlerts
