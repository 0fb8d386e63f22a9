import CandleAlerts.Decimal.Read

/-!
The doubles that JSON numerals stand for.

The digits of a numeral are gathered into a significand of at most 64 bits, which becomes a double
and is then scaled by a power of ten. Either step rounds, so a numeral of many digits may stand for
a neighbour of the double nearest to it.
-/

namespace CandleAlerts.Json

/-- Gather digits while the significand keeps to 64 bits; with it, the digits left over. -/
def gatherDigits (significand : Nat) : List Char → Nat × List Char
  | [] => (significand, [])
  | character :: rest =>
      let next := significand * 10 + (Decimal.digit? character).getD 0
      if next < UInt64.size then gatherDigits next rest else (significand, character :: rest)

/-- Scale a double by a power of ten. A result beyond the greatest double is refused. Powers of
which the divisor is no double are divided by in steps. -/
def scaleByTen (value : Float) (exponent : Int) : Option Float :=
  if value == 0.0 then some value
  else if 308 < exponent then none
  else if 0 ≤ exponent then
    let scaled := value * Float.ofScientific 1 false exponent.toNat
    if scaled.isFinite then some scaled else none
  else if -308 ≤ exponent then some (value / Float.ofScientific 1 false exponent.natAbs)
  else scaleByTen (value / 1e308) (exponent + 308)
termination_by (-exponent).toNat
decreasing_by omega

/-- The double of a numeral. A whole digit left over counts as a power of ten, one after the point
not at all. -/
def numeralFloat? (numeral : Decimal.Numeral) : Option Float :=
  let (whole, left) := gatherDigits 0 numeral.whole
  let (significand, dropped) := gatherDigits whole numeral.fraction
  let taken := numeral.fraction.length - dropped.length
  (scaleByTen (Float.ofNat significand) (numeral.exponent + left.length - taken)).map
    (fun magnitude => if numeral.negative then -magnitude else magnitude)

end CandleAlerts.Json
