import CandleAlerts.Indicator.Spec
import CandleAlerts.Text.LowerCase

/-!
Finding a component of an indicator among its columns.

Columns are named after several conventions (`MACD_signal_line`, `MACD_Signal`, `signal`, …). A
component is looked for under its own name and then under the other names of its family, each with
the indicator's name in front, the same in lower case, and bare; last comes the indicator's bare
name.
-/

namespace CandleAlerts

inductive ComponentFamily where
  | convergence
  | band
  | average
deriving DecidableEq

namespace ComponentFamily

def ofIndicator? (indicator : String) : Option ComponentFamily :=
  let name := Text.asciiUpper indicator
  if Text.startsWith name "MACD" then some convergence
  else if Text.startsWith name "BB" || Text.startsWith name "BOLL" then some band
  else if Text.occursIn "MA".toList name.toList then some average
  else none

/-- The components of a family: the spellings that mean one, and the columns it is looked for
under. -/
def components : ComponentFamily → List (List String × List String)
  | convergence =>
      [(["macd_line", "macd", "line", "value"], ["macd_line", "MACD", "MACD Line", "macd", "line"]),
       (["signal_line", "signal"], ["signal_line", "Signal Line", "Signal", "signal"]),
       (["histogram", "hist"], ["histogram", "Histogram", "hist", "Hist"])]
  | band =>
      [(["upper", "upper_band"], ["upper", "Upper", "upper_band", "Upper Band"]),
       (["middle", "middle_band", "basis"],
        ["middle", "Middle", "middle_band", "Middle Band", "basis"]),
       (["lower", "lower_band"], ["lower", "Lower", "lower_band", "Lower Band"])]
  | average =>
      [(["fast", "fast_ma", "ma_fast"], ["fast", "fast_ma", "Fast MA", "ma_fast"]),
       (["slow", "slow_ma", "ma_slow"], ["slow", "slow_ma", "Slow MA", "ma_slow"])]

end ComponentFamily

/-- The other names of a component. Spellings are compared without blanks at the ends, in lower
case, and with underscores for spaces and hyphens. -/
def componentAliases (indicator component : String) : List String :=
  let spelling := Text.replaceChars (Text.asciiLower (Text.trim component)) [' ', '-'] '_'
  match ComponentFamily.ofIndicator? indicator with
  | none => []
  | some family =>
      match family.components.find? (fun entry => entry.1.contains spelling) with
      | some entry => entry.2
      | none => []

/-- The column names that one name of a component stands for. -/
def columnNames (indicator component : String) : List String :=
  [indicator ++ "_" ++ component, indicator ++ "_" ++ Text.lower component, component]

/-- The column names that a component is looked for under, in order and each once. -/
def componentCandidates (indicator component : String) : List String :=
  let names := (component :: componentAliases indicator component).flatMap (columnNames indicator)
  ((names ++ [indicator]).filter (fun name => !name.isEmpty)).eraseDups

/-- Whether a component is the zero line, which is zero unless a column says otherwise. -/
def isZeroLine (indicator component : String) : Bool :=
  let spelling := Text.replaceChars (Text.asciiLower (Text.trim component)) [' '] '_'
  Text.startsWith (Text.asciiUpper indicator) "MACD" &&
    (spelling == "zero_line" || spelling == "zero")

def resolveComponent? (columns : Columns) (indicator component : String) : Option Float :=
  match (componentCandidates indicator component).findSome? columns.get? with
  | some value => some value
  | none => if isZeroLine indicator component then some 0.0 else none

end CandleAlerts
