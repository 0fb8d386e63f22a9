import CandleAlerts.Decimal.Shortest

/-!
How numbers are written.

Doubles are written with the fewest digits that read back, in one of two styles, or with a fixed
number of places.
-/

namespace CandleAlerts.Decimal

/-- Where a style writes a number positionally, and whether a whole number shows its point. -/
structure Style where
  /-- The least and the greatest `point` written positionally; `none` when all are. -/
  positional : Option (Int × Int)
  showsPoint : Bool

/-- JSON numbers: positional from `0.00001` up to sixteen whole digits, otherwise with an exponent;
a whole number keeps `.0`, so that it reads back as a double. -/
def Style.json : Style := { positional := some (-4, 16), showsPoint := true }

/-- Numbers in messages and labels: always positional, a whole number without a point. -/
def Style.label : Style := { positional := none, showsPoint := false }

def zeros (count : Nat) : List Char := List.replicate count '0'

def Digits.positional (number : Digits) (showsPoint : Bool) : List Char :=
  if number.point ≤ 0 then
    '0' :: '.' :: (zeros (-number.point).toNat ++ number.digits)
  else if number.digits.length ≤ number.point.toNat then
    number.digits ++ zeros (number.point.toNat - number.digits.length) ++
      (if showsPoint then ['.', '0'] else [])
  else
    number.digits.take number.point.toNat ++ '.' :: number.digits.drop number.point.toNat

/-- Write digits with one digit before the point and a signed exponent. -/
def Digits.scientific (number : Digits) : List Char :=
  let exponent := number.point - 1
  let mantissa := match number.digits with
    | first :: second :: rest => first :: '.' :: second :: rest
    | short => short
  mantissa ++ 'e' :: (if exponent < 0 then '-' else '+') :: Nat.toDigits 10 exponent.natAbs

def Digits.inStyle (style : Style) (number : Digits) : List Char :=
  match style.positional with
  | none => number.positional style.showsPoint
  | some (least, greatest) =>
      if least ≤ number.point && number.point ≤ greatest then number.positional style.showsPoint
      else number.scientific

def writeFloat (style : Style) (number : Float) : List Char :=
  let sign := if isNegative number then ['-'] else []
  match Magnitude.ofFloat number with
  | .notANumber => "NaN".toList
  | .infinite => sign ++ "inf".toList
  | .zero => sign ++ (if style.showsPoint then "0.0".toList else ['0'])
  | .positive interval => sign ++ (shortest interval).inStyle style

/-- Write a double with exactly `places` digits after the point, rounding the exact value to the
nearest and a half to the even neighbour. -/
def writeFixed (places : Nat) (number : Float) : List Char :=
  let sign := if isNegative number then ['-'] else []
  let written (count : Nat) : List Char :=
    let digits := Nat.toDigits 10 count
    let padded := zeros (places + 1 - digits.length) ++ digits
    let whole := padded.length - places
    padded.take whole ++ (if places = 0 then [] else '.' :: padded.drop whole)
  match Magnitude.ofFloat number with
  | .notANumber => "NaN".toList
  | .infinite => sign ++ "inf".toList
  | .zero => sign ++ written 0
  | .positive interval =>
      sign ++ written (roundHalfEven (interval.value * Nat.pow 10 places) interval.denominator)

def label (number : Float) : String :=
  String.ofList (writeFloat .label number)

def writeInt (number : Int) : List Char :=
  if number < 0 then '-' :: Nat.toDigits 10 number.natAbs else Nat.toDigits 10 number.natAbs

end CandleAlerts.Decimal
