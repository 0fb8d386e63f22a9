import CandleAlerts.Table
import CandleAlerts.Text.Blank
import CandleAlerts.Text.Letters
import CandleAlerts.Decimal.Written
import CandleAlerts.Market.Candle

/-!
Indicator requests and the columns that answer them.

A request is a name in upper case with numeric parameters under names in lower case. Two requests
are the same when the names and every parameter, bit for bit, are the same.
-/

namespace CandleAlerts

structure IndicatorSpec where
  name : String
  parameters : Table Float

namespace IndicatorSpec

def named (name : String) : IndicatorSpec :=
  { name := Text.asciiUpper (Text.trim name), parameters := Table.empty }

/-- A request with one more parameter; a parameter of the same name is replaced. -/
def withParameter (spec : IndicatorSpec) (name : String) (value : Float) : IndicatorSpec :=
  { spec with parameters := spec.parameters.insert (Text.asciiLower name) value }

def parameter (spec : IndicatorSpec) (name : String) (default : Float) : Float :=
  spec.parameters.getD name default

/-- The period to look back over: the parameter `period` if it is a finite number from one on,
without its fraction and at most `2 ^ 64 - 1`. -/
def period (spec : IndicatorSpec) (default : Nat) : Nat :=
  let asked := spec.parameter "period" (Float.ofNat default)
  if asked.isFinite && 1.0 ≤ asked then asked.toUInt64.toNat else default

/-- What tells requests apart: the name, and the name and bits of every parameter. -/
def identity (spec : IndicatorSpec) : String × List (String × UInt64) :=
  (spec.name, spec.parameters.entries.map (fun entry => (entry.1, entry.2.toBits)))

def same (first second : IndicatorSpec) : Bool :=
  first.identity == second.identity

instance : BEq IndicatorSpec := ⟨same⟩

/-- The text of a request: its name, and its parameters in parentheses if there are any. -/
def text (spec : IndicatorSpec) : String :=
  if spec.parameters.isEmpty then spec.name
  else
    let parameters := spec.parameters.entries.map
      (fun entry => entry.1 ++ "=" ++ Decimal.label entry.2)
    spec.name ++ "(" ++ Text.joinWith "," parameters ++ ")"

end IndicatorSpec

/-- The components of an indicator at the latest bar, by column name. -/
abbrev Columns := Table Float

/-- What computes indicators: none when the indicator is unknown or the candles do not suffice. -/
abbrev IndicatorEngine := List Candle → IndicatorSpec → Option Columns

end CandleAlerts
