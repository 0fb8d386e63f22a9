import CandleAlerts.Market.Candle
import CandleAlerts.Market.Extreme
import CandleAlerts.Market.Timeframe

/-!
Building longer bars out of shorter ones.

Each candle belongs to the bucket that its time falls into. Neighbouring candles of one bucket
become one bar, which opens with the first of them and closes with the last. The last bar may still
be forming.
-/

namespace CandleAlerts

/-- The opening time of the bucket that holds `time`. -/
def Timeframe.bucketStart (timeframe : Timeframe) (time : Int) : Int :=
  Word.sub time (time % Word.wrap timeframe.seconds)

def Candle.absorb (bar next : Candle) : Candle :=
  { bar with
    high := larger bar.high next.high
    low := smaller bar.low next.low
    close := next.close
    volume := bar.volume + next.volume }

/-- Gather candles into bars, `bar` being the one under way. -/
def gatherBars (timeframe : Timeframe) (bar : Candle) : List Candle → List Candle
  | [] => [bar]
  | candle :: rest =>
      let start := timeframe.bucketStart candle.time
      if start = bar.time then gatherBars timeframe (bar.absorb candle) rest
      else bar :: gatherBars timeframe { candle with time := start } rest

/-- The bars of `target` that candles of `source` make up. There are none unless `target` consists
of whole bars of `source`. -/
def resample? (source target : Timeframe) (candles : List Candle) : Option (List Candle) :=
  if source = target then some candles
  else if target.isMultipleOf source then
    match candles with
    | [] => some []
    | first :: rest =>
        some (gatherBars target { first with time := target.bucketStart first.time } rest)
  else none

end CandleAlerts
