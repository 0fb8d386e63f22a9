/-!
Doubles as binary fractions.

A finite double other than zero is a natural number times a power of two. The value is kept here as
an exact quotient together with the ends of the interval of numbers that are rounded to it, all
three over one denominator.
-/

namespace CandleAlerts.Decimal

/-- The value of a positive double as `value / denominator`, with the ends of the interval of the
numbers that round to it. -/
structure Interval where
  low : Nat
  value : Nat
  high : Nat
  denominator : Nat
  /-- Whether the ends themselves round to the value. -/
  closed : Bool

/-- What a double is, apart from its sign. -/
inductive Magnitude where
  | notANumber
  | infinite
  | zero
  | positive (interval : Interval)

/-- The interval around `significand * 2 ^ exponent`. The next double above is one unit of `2 ^
exponent` away, the next one below as far or, at the bottom of a binade (`narrowBelow`), half as
far; the interval ends halfway to both. -/
def Interval.around (significand : Nat) (exponent : Int) (narrowBelow : Bool) : Interval :=
  let raise := Nat.pow 2 exponent.toNat
  { low := (4 * significand - if narrowBelow then 1 else 2) * raise
    value := 4 * significand * raise
    high := (4 * significand + 2) * raise
    denominator := 4 * Nat.pow 2 (-exponent).toNat
    closed := significand % 2 == 0 }

/-- Read a double's magnitude from its bits: eleven bits of exponent and fifty-two of fraction. -/
def Magnitude.ofFloat (number : Float) : Magnitude :=
  let bits := number.toBits.toNat
  let fraction := bits % Nat.pow 2 52
  let exponent : Nat := bits / Nat.pow 2 52 % Nat.pow 2 11
  if exponent = 2047 then
    if fraction = 0 then .infinite else .notANumber
  else if exponent = 0 then
    if fraction = 0 then .zero else .positive (.around fraction (-1074) false)
  else
    .positive (.around (Nat.pow 2 52 + fraction) ((exponent : Int) - 1075)
      (fraction == 0 && 1 < exponent))

def isNegative (number : Float) : Bool :=
  Nat.pow 2 63 ≤ number.toBits.toNat

end CandleAlerts.Decimal
