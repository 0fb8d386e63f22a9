import CandleAlerts.Word

/-!
How numbers are read from text.

Integers are read with bounds, and a refusal says why. Doubles are read from decimal digits with an
optional point and exponent and are rounded correctly; a magnitude beyond the greatest double reads
as infinite and one below half the least as zero.
-/

namespace CandleAlerts.Decimal

/-- Why a text is not an integer of the wanted range. -/
inductive IntegerFault where
  | empty
  | invalidDigit
  | tooLarge
  | tooSmall
deriving DecidableEq, Repr

def IntegerFault.message : IntegerFault → String
  | empty => "cannot parse integer from empty string"
  | invalidDigit => "invalid digit found in string"
  | tooLarge => "number too large to fit in target type"
  | tooSmall => "number too small to fit in target type"

def digit? (character : Char) : Option Nat :=
  if character.isDigit then some (character.toNat - '0'.toNat) else none

/-- Read the digits of a number whose magnitude is at most `greatest`, from the left. The first
character that is no digit, or that takes the number past the bound, decides the fault. -/
def readDigits (greatest : Nat) (past : IntegerFault) :
    (sofar : Nat) → List Char → Except IntegerFault Nat
  | sofar, [] => .ok sofar
  | sofar, character :: rest =>
      match digit? character with
      | none => .error .invalidDigit
      | some digit =>
          if greatest < sofar * 10 + digit then .error past
          else readDigits greatest past (sofar * 10 + digit) rest

/-- Read a natural number of at most `greatest`; a plus sign may stand in front. -/
def readNat (greatest : Nat) : List Char → Except IntegerFault Nat
  | [] => .error .empty
  | ['+'] => .error .invalidDigit
  | '+' :: digits => readDigits greatest .tooLarge 0 digits
  | digits => readDigits greatest .tooLarge 0 digits

/-- Read an integer from `-2 ^ 63` to `2 ^ 63 - 1`; a sign may stand in front. -/
def readInt64 : List Char → Except IntegerFault Int
  | [] => .error .empty
  | ['+'] => .error .invalidDigit
  | ['-'] => .error .invalidDigit
  | '+' :: digits => (readDigits Word.greatest.toNat .tooLarge 0 digits).map Int.ofNat
  | '-' :: digits => (readDigits Word.least.natAbs .tooSmall 0 digits).map (fun magnitude =>
    -Int.ofNat magnitude)
  | digits => (readDigits Word.greatest.toNat .tooLarge 0 digits).map Int.ofNat

/-- The double nearest to `significand * 10 ^ exponent`. Magnitudes that no double comes near are
decided without computing the power. -/
def toFloat (significand : Nat) (exponent : Int) : Float :=
  if significand = 0 then 0.0
  else
    let point := (Nat.toDigits 10 significand).length + exponent
    if point > 400 then 1.0 / 0.0
    else if point < -400 then 0.0
    else Float.ofScientific significand (exponent < 0) exponent.natAbs

/-- A decimal number in its written parts. -/
structure Numeral where
  negative : Bool
  whole : List Char
  fraction : List Char
  exponent : Int

def Numeral.toFloat (numeral : Numeral) : Float :=
  let significand := (numeral.whole ++ numeral.fraction).foldl
    (fun sofar character => sofar * 10 + (digit? character).getD 0) 0
  let magnitude := Decimal.toFloat significand (numeral.exponent - numeral.fraction.length)
  if numeral.negative then -magnitude else magnitude

/-- Read what follows an exponent mark: a sign may stand in front of at least one digit. -/
def readExponent? (text : List Char) : Option Int :=
  let (negative, digits) := match text with
    | '+' :: rest => (false, rest)
    | '-' :: rest => (true, rest)
    | other => (false, other)
  if digits.isEmpty || !digits.all Char.isDigit then none
  else
    let magnitude := digits.foldl (fun sofar character => sofar * 10 + (digit? character).getD 0) 0
    some (if negative then -Int.ofNat magnitude else Int.ofNat magnitude)

/-- Read a decimal without its sign: digits, then a point with digits, then an exponent; all but one
digit may be absent. -/
def readUnsigned? (negative : Bool) (text : List Char) : Option Numeral :=
  let whole := text.takeWhile Char.isDigit
  let afterWhole := text.dropWhile Char.isDigit
  let (fraction, rest) := match afterWhole with
    | '.' :: digits => (digits.takeWhile Char.isDigit, digits.dropWhile Char.isDigit)
    | other => ([], other)
  if whole.isEmpty && fraction.isEmpty then none
  else match rest with
    | [] => some ⟨negative, whole, fraction, 0⟩
    | mark :: power =>
        if mark = 'e' || mark = 'E' then
          (readExponent? power).map (fun exponent => ⟨negative, whole, fraction, exponent⟩)
        else none

/-- Read a double. Beside decimals the words `inf`, `infinity` and `nan` are read, in either letter
case. -/
def readFloat? (text : List Char) : Option Float :=
  let (negative, body) := match text with
    | '+' :: rest => (false, rest)
    | '-' :: rest => (true, rest)
    | other => (false, other)
  let word := body.map Char.toLower
  if word = "inf".toList || word = "infinity".toList then
    some (if negative then -(1.0 / 0.0) else 1.0 / 0.0)
  else if word = "nan".toList then some (0.0 / 0.0)
  else (readUnsigned? negative body).map Numeral.toFloat

end CandleAlerts.Decimal
