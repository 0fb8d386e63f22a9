import CandleAlerts.Text.Blank
import CandleAlerts.Text.Letters

/-!
Candles: what a market did during one bar.
-/

namespace CandleAlerts

/-- One bar: its opening time in seconds, four prices and the traded volume. -/
structure Candle where
  time : Int
  openPrice : Float
  high : Float
  low : Float
  close : Float
  volume : Float

/-- The parts of a candle that a condition can read. -/
inductive PriceField where
  | opening
  | high
  | low
  | close
  | volume
deriving DecidableEq

namespace PriceField

/-- The names of a field, in lower case; the first is the one it is written with. -/
def names : PriceField → List String
  | opening => ["open", "o"]
  | high => ["high", "h"]
  | low => ["low", "l"]
  | close => ["close", "c", "price", "last"]
  | volume => ["volume", "v", "vol"]

def all : List PriceField := [opening, high, low, close, volume]

/-- Read a field's name, in either letter case and with blanks around it. -/
def parse? (text : String) : Option PriceField :=
  let name := Text.asciiLower (Text.trim text)
  all.find? (fun field => field.names.contains name)

def text : PriceField → String
  | opening => "open"
  | high => "high"
  | low => "low"
  | close => "close"
  | volume => "volume"

end PriceField

def Candle.value (candle : Candle) : PriceField → Float
  | .opening => candle.openPrice
  | .high => candle.high
  | .low => candle.low
  | .close => candle.close
  | .volume => candle.volume

end CandleAlerts
