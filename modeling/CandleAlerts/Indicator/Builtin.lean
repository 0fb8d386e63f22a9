import CandleAlerts.Indicator.Pattern
import CandleAlerts.Indicator.Series
import CandleAlerts.Indicator.Spec

/-!
The indicators that come with the engine.

Each names its columns after its own convention; `Indicator.Component` finds a component under any
of them.
-/

namespace CandleAlerts

private def column (name : String) (value : Float) : Columns :=
  Table.empty.insert name value

/-- A period given under a name of its own: the parameter without its fraction, at least one. -/
def wholePeriod (spec : IndicatorSpec) (name : String) (default : Float) : Nat :=
  (larger (spec.parameter name default) 1.0).toUInt64.toNat

/-- The moving average convergence and divergence: the difference of a fast and a slow exponential
average, its own average as a signal, and the distance of the two. -/
def convergenceColumns (closes : List Float) (spec : IndicatorSpec) : Option Columns :=
  let fast := Series.exponentialSeries closes (wholePeriod spec "fast" 12.0)
  let slow := Series.exponentialSeries closes (wholePeriod spec "slow" 26.0)
  let differences := (fast.zip slow).map (fun pair => pair.1 - pair.2)
  differences.getLast?.map (fun line =>
    let signal := Series.exponentialAverage differences (wholePeriod spec "signal" 9.0)
    ((column "MACD_MACD" line).insert "MACD_Signal" signal).insert "MACD_Histogram" (line - signal))

/-- A band of a multiple of the standard deviation around a simple average. -/
def bandColumns (closes : List Float) (spec : IndicatorSpec) : Columns :=
  let period := spec.period 20
  let multiple := spec.parameter "std" (spec.parameter "stddev" 2.0)
  let middle := Series.simpleAverage closes period
  let deviation := Series.deviation closes period
  ((column (spec.name ++ "_Upper") (middle + multiple * deviation)).insert
    (spec.name ++ "_Middle") middle).insert (spec.name ++ "_Lower") (middle - multiple * deviation)

/-- Compute an indicator at the last of `candles`. -/
def builtinIndicators : IndicatorEngine := fun candles spec =>
  if candles.isEmpty then none
  else
    let closes := candles.map Candle.close
    let name := spec.name
    if name = "SMA" ∨ name = "MA" then
      some (column name (Series.simpleAverage closes (spec.period 20)))
    else if name = "EMA" then some (column name (Series.exponentialAverage closes (spec.period 20)))
    else if name = "RSI" then some (column name (Series.relativeStrength closes (spec.period 14)))
    else if name = "MACD" then convergenceColumns closes spec
    else if name = "BB" ∨ name = "BBANDS" ∨ name = "BOLLINGER" then some (bandColumns closes spec)
    else if name = "ATR" then some (column name (Series.averageTrueRange candles (spec.period 14)))
    else if name = "VWAP" then some (column name (Series.volumeWeightedPrice candles))
    else if name = "MA_CROSS" then
      some ((column "fast_ma" (Series.simpleAverage closes (wholePeriod spec "fast" 9.0))).insert
        "slow_ma" (Series.simpleAverage closes (wholePeriod spec "slow" 21.0)))
    else match Pattern.ofName? name with
      | some pattern =>
          (pattern.shows? candles).map (fun shown => column name (if shown then 1.0 else 0.0))
      | none => none

end CandleAlerts
