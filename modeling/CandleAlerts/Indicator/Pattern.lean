import CandleAlerts.Market.Candle
import CandleAlerts.Market.Extreme

/-!
Candlestick patterns at the latest bar.
-/

namespace CandleAlerts

/-- The patterns that are known. -/
inductive Pattern where
  | hammer
  | doji
  | bullishEngulfing
  | bearishEngulfing
deriving DecidableEq

namespace Pattern

def name : Pattern → String
  | hammer => "HAMMER"
  | doji => "DOJI"
  | bullishEngulfing => "BULLISH_ENGULFING"
  | bearishEngulfing => "BEARISH_ENGULFING"

def ofName? (name : String) : Option Pattern :=
  [hammer, doji, bullishEngulfing, bearishEngulfing].find? (fun pattern => pattern.name == name)

private def bodyLow (candle : Candle) : Float := smaller candle.openPrice candle.close

private def bodyHigh (candle : Candle) : Float := larger candle.openPrice candle.close

def engulfs (previous last : Candle) : Bool :=
  bodyLow last ≤ bodyLow previous && bodyHigh previous ≤ bodyHigh last

/-- Whether a pattern shows at the last of `candles`. There is no answer without a candle, nor for
an engulfing pattern without a second one. A candle without range shows nothing. -/
def shows? (pattern : Pattern) (candles : List Candle) : Option Bool :=
  match candles.reverse with
  | [] => none
  | last :: before =>
      let body := (last.close - last.openPrice).abs
      let range := last.high - last.low
      if range ≤ 0.0 then some false
      else match pattern with
        | doji => some (body ≤ range * 0.1)
        | hammer =>
            let lowerWick := bodyLow last - last.low
            let upperWick := last.high - bodyHigh last
            some (0.0 < body && body * 2.0 ≤ lowerWick && upperWick ≤ body)
        | bullishEngulfing => before.head?.map (fun previous =>
            previous.close < previous.openPrice && last.openPrice < last.close &&
              engulfs previous last)
        | bearishEngulfing => before.head?.map (fun previous =>
            previous.openPrice < previous.close && last.close < last.openPrice &&
              engulfs previous last)

end Pattern

end CandleAlerts
