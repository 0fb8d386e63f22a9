import CandleAlerts.Market.Candle
import CandleAlerts.Market.Extreme

/-!
Averages and oscillators over series of doubles.

Sums run from left to right and start from negative zero, the neutral element of addition of
doubles.
-/

namespace CandleAlerts.Series

def total (values : List Float) : Float :=
  values.foldl (· + ·) (-0.0)

/-- The last `count` values. -/
def window (count : Nat) (values : List α) : List α :=
  values.drop (values.length - count)

/-- The mean of a window that is not empty. -/
def mean (values : List Float) : Float :=
  total values / Float.ofNat values.length

/-- The simple moving average of the last `period` values, or of all when there are fewer. -/
def simpleAverage (values : List Float) (period : Nat) : Float :=
  let recent := window period values
  if recent.isEmpty then 0.0 else mean recent

/-- Continue an exponential average from `previous`. -/
def exponentialFrom (weight previous : Float) : List Float → List Float
  | [] => []
  | value :: rest =>
      let next := value * weight + previous * (1.0 - weight)
      next :: exponentialFrom weight next rest

/-- The exponential moving averages at every value, starting from the first value. -/
def exponentialSeries (values : List Float) (period : Nat) : List Float :=
  if period = 0 then []
  else match values with
    | [] => []
    | first :: rest =>
        first :: exponentialFrom (2.0 / (Float.ofNat period + 1.0)) first rest

def exponentialAverage (values : List Float) (period : Nat) : Float :=
  ((exponentialSeries values period).getLast?).getD 0.0

def changes (values : List Float) : List Float :=
  (values.zip values.tail).map (fun pair => pair.2 - pair.1)

def epsilon : Float := 2.220446049250313e-16

/-- The relative strength of the last `period` changes, from 0 (only losses) to 100 (no losses). -/
def relativeStrength (values : List Float) (period : Nat) : Float :=
  if values.length < 2 || period == 0 then 50.0
  else
    let recent := window period (changes values)
    let count := Float.ofNat recent.length
    let averageGain := total (recent.filter (fun change => 0.0 < change)) / count
    let averageLoss := total ((recent.filter (fun change => change < 0.0)).map Float.abs) / count
    if averageLoss < epsilon then 100.0
    else if averageGain < epsilon then 0.0
    else 100.0 - 100.0 / (1.0 + averageGain / averageLoss)

/-- The standard deviation of the last `period` values. -/
def deviation (values : List Float) (period : Nat) : Float :=
  let recent := window period values
  if recent.isEmpty then 0.0
  else
    let centre := mean recent
    (mean (recent.map (fun value => (value - centre) * (value - centre)))).sqrt

/-- How far a market moved during a bar, counted from the close before when there is one. -/
def trueRange (previousClose : Option Float) (candle : Candle) : Float :=
  let range := candle.high - candle.low
  match previousClose with
  | none => range
  | some close => larger (larger range (candle.high - close).abs) (candle.low - close).abs

def trueRanges (previousClose : Option Float) : List Candle → List Float
  | [] => []
  | candle :: rest => trueRange previousClose candle :: trueRanges (some candle.close) rest

def averageTrueRange (candles : List Candle) (period : Nat) : Float :=
  simpleAverage (trueRanges none candles) period

def volumeWeightedPrice (candles : List Candle) : Float :=
  let (value, volume) := candles.foldl (fun sums candle =>
    let typical := (candle.high + candle.low + candle.close) / 3.0
    (sums.1 + typical * candle.volume, sums.2 + candle.volume)) (0.0, 0.0)
  if 0.0 < volume then value / volume else 0.0

end CandleAlerts.Series
