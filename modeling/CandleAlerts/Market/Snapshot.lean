import CandleAlerts.Indicator.Spec
import CandleAlerts.Market.Timeframe

/-!
Snapshots: all that conditions may read of one symbol at one moment.

A snapshot has a frame for each timeframe it covers, one of which is its base. A frame holds candles
and the columns of the indicators computed on them.
-/

namespace CandleAlerts

/-- The candles of one timeframe and the indicators computed on them. -/
structure Frame where
  timeframe : Timeframe
  candles : List Candle
  indicators : List (IndicatorSpec × Columns) := []

namespace Frame

def last? (frame : Frame) : Option Candle := frame.candles.getLast?

def previous? (frame : Frame) : Option Candle := frame.candles.dropLast.getLast?

def columns? (frame : Frame) (spec : IndicatorSpec) : Option Columns :=
  (frame.indicators.find? (fun entry => entry.1.same spec)).map Prod.snd

/-- The frame with the columns of one more indicator; those of the same request are replaced. -/
def withIndicator (frame : Frame) (spec : IndicatorSpec) (columns : Columns) : Frame :=
  { frame with
    indicators := (spec, columns) :: frame.indicators.filter (fun entry => !entry.1.same spec) }

end Frame

/-- What conditions may read of a symbol at one moment. -/
structure Snapshot where
  symbol : String
  base : Timeframe
  frames : List Frame

namespace Snapshot

def ofFrame (symbol : String) (frame : Frame) : Snapshot :=
  { symbol, base := frame.timeframe, frames := [frame] }

def frame? (snapshot : Snapshot) (timeframe : Timeframe) : Option Frame :=
  snapshot.frames.find? (fun frame => frame.timeframe == timeframe)

/-- The snapshot with one more frame; a frame of the same timeframe is replaced. -/
def withFrame (snapshot : Snapshot) (frame : Frame) : Snapshot :=
  { snapshot with
    frames := frame :: snapshot.frames.filter (fun other => other.timeframe != frame.timeframe) }

def baseFrame? (snapshot : Snapshot) : Option Frame := snapshot.frame? snapshot.base

def lastCandle? (snapshot : Snapshot) : Option Candle := snapshot.baseFrame?.bind Frame.last?

def barTime? (snapshot : Snapshot) : Option Int := snapshot.lastCandle?.map Candle.time

def barIndex? (snapshot : Snapshot) : Option Int := snapshot.barTime?.map snapshot.base.barIndex

end Snapshot

end CandleAlerts
