import CandleAlerts.Decimal.Binary

/-!
The fewest decimal digits that read back as a given double.

For one digit, two digits and so on up to seventeen, the two neighbours of the value on the grid of
numbers with that many digits are tested in exact arithmetic. The first grid with a neighbour inside
the double's interval gives the digits; of two such neighbours the nearer is taken, and the even one
when both are equally near.
-/

namespace CandleAlerts.Decimal

/-- The number `0.d₁d₂… * 10 ^ point`. -/
structure Digits where
  digits : List Char
  point : Int
deriving DecidableEq, Repr

/-- The least `point` with `value / denominator < 10 ^ point`. -/
def decimalPoint (value denominator : Nat) : Int :=
  let guess : Int := (Nat.toDigits 10 value).length - (Nat.toDigits 10 denominator).length
  if value * Nat.pow 10 (-guess).toNat < denominator * Nat.pow 10 guess.toNat then guess
  else guess + 1

/-- The integer nearest to `numerator / denominator`; of two equally near ones the even one. -/
def roundHalfEven (numerator denominator : Nat) : Nat :=
  let below := numerator / denominator
  let twice := 2 * (numerator % denominator)
  if twice < denominator then below
  else if denominator < twice then below + 1
  else if below % 2 = 0 then below else below + 1

/-- The multiple of `10 ^ unit` chosen to stand for the interval's value, if one lies in the
interval. -/
def gridPoint? (interval : Interval) (unit : Int) : Option Nat :=
  let raise := Nat.pow 10 (-unit).toNat
  let step := interval.denominator * Nat.pow 10 unit.toNat
  let inside (candidate : Nat) : Bool :=
    if interval.closed then
      interval.low * raise ≤ candidate * step && candidate * step ≤ interval.high * raise
    else
      interval.low * raise < candidate * step && candidate * step < interval.high * raise
  let below := interval.value * raise / step
  let nearest := roundHalfEven (interval.value * raise) step
  if inside nearest then some nearest
  else if inside below then some below
  else if inside (below + 1) then some (below + 1)
  else none

/-- Write `count * 10 ^ unit` without zeros at the end. -/
def Digits.ofGridPoint (count : Nat) (unit : Int) : Digits :=
  let written := Nat.toDigits 10 count
  { digits := (written.reverse.dropWhile (· == '0')).reverse
    point := unit + written.length }

/-- Try grids of more and more digits, `remaining` of them. -/
def shortestFrom (interval : Interval) (point : Int) : (remaining : Nat) → (digits : Nat) → Digits
  | 0, digits =>
      let unit := point - digits
      .ofGridPoint (roundHalfEven (interval.value * Nat.pow 10 (-unit).toNat)
        (interval.denominator * Nat.pow 10 unit.toNat)) unit
  | remaining + 1, digits =>
      match gridPoint? interval (point - digits) with
      | some count => .ofGridPoint count (point - digits)
      | none => shortestFrom interval point remaining (digits + 1)

def shortest (interval : Interval) : Digits :=
  shortestFrom interval (decimalPoint interval.value interval.denominator) 17 1

end CandleAlerts.Decimal
