import CandleAlerts.Decimal.Read
import CandleAlerts.Decimal.Written
import CandleAlerts.Text.Blank
import CandleAlerts.Time.Instant
import CandleAlerts.Word

/-!
Instants as RFC 3339 text.

An instant is written in universal time with `Z` and a fraction of no, three, six or nine digits;
years beyond four digits carry a sign. The reader is more lenient: blanks may stand around the parts
of date and time, a space or `t` may part the two, and any offset below a day is taken into account.
-/

namespace CandleAlerts.Instant

def padded (width : Nat) (number : Nat) : List Char :=
  let digits := Nat.toDigits 10 number
  List.replicate (width - digits.length) '0' ++ digits

def writeYear (year : Int) : List Char :=
  if 0 ≤ year ∧ year ≤ 9999 then padded 4 year.toNat
  else (if year < 0 then '-' else '+') :: padded 4 year.natAbs

def writeFraction (nanos : Nat) : List Char :=
  if nanos = 0 then []
  else if nanos % 1000000 = 0 then '.' :: padded 3 (nanos / 1000000)
  else if nanos % 1000 = 0 then '.' :: padded 6 (nanos / 1000)
  else '.' :: padded 9 nanos

/-- The text of an instant, as characters. -/
def write (instant : Instant) : List Char :=
  let leap := 1000000000 ≤ instant.nanos
  let date := Time.CivilDate.ofDayNumber (instant.seconds / 86400)
  let second := (instant.seconds % 86400).toNat
  writeYear date.year ++ '-' :: padded 2 date.month ++ '-' :: padded 2 date.day ++
    'T' :: padded 2 (second / 3600) ++ ':' :: padded 2 (second / 60 % 60) ++
    ':' :: padded 2 (second % 60 + if leap then 1 else 0) ++
    writeFraction (if leap then instant.nanos - 1000000000 else instant.nanos) ++ ['Z']

def text (instant : Instant) : String := String.ofList instant.write

/-- Read a number of one to `width` digits after blanks, with what follows. -/
def readField? (width : Nat) (text : List Char) : Option (Nat × List Char) :=
  let trimmed := Text.trimStart text
  let digits := (trimmed.take width).takeWhile Char.isDigit
  match Decimal.readNat Word.greatest.toNat digits with
  | .ok value => if digits.isEmpty then none else some (value, trimmed.drop digits.length)
  | .error _ => none

def readMark? (mark : Char) (text : List Char) : Option (List Char) :=
  match Text.trimStart text with
  | first :: rest => if first = mark then some rest else none
  | [] => none

/-- Read a year. With a sign it may have any number of digits, without one at most four. -/
def readYear? (text : List Char) : Option (Int × List Char) :=
  match Text.trimStart text with
  | '-' :: rest => signed rest |>.map (fun read => (-Int.ofNat read.1, read.2))
  | '+' :: rest => signed rest |>.map (fun read => (Int.ofNat read.1, read.2))
  | other => readField? 4 other |>.map (fun read => (Int.ofNat read.1, read.2))
where
  signed (digits : List Char) : Option (Nat × List Char) :=
    match digits with
    | first :: _ => if first.isDigit then readField? digits.length digits else none
    | [] => none

/-- Read a fraction of a second as nanoseconds; digits beyond the ninth are passed over. -/
def readFraction? : List Char → Option (Nat × List Char)
  | '.' :: rest =>
      let digits := rest.takeWhile Char.isDigit
      if digits.isEmpty then none
      else
        let kept := digits.take 9
        let value := kept.foldl
          (fun sofar character => sofar * 10 + (Decimal.digit? character).getD 0) 0
        some (value * Nat.pow 10 (9 - kept.length), rest.dropWhile Char.isDigit)
  | other => some (0, other)

/-- Read an offset in seconds: `Z`, `UTC`, or a sign with hours and minutes. -/
def readOffset? (text : List Char) : Option (Int × List Char) :=
  match text with
  | 'Z' :: rest | 'z' :: rest => some (0, rest)
  | sign :: tens :: ones :: rest =>
      if [sign, tens, ones].map Char.toUpper = ['U', 'T', 'C'] then some (0, rest)
      else if sign = '+' ∨ sign = '-' ∨ sign.toNat = 0x2212 then
        match Decimal.digit? tens, Decimal.digit? ones,
            rest.dropWhile (fun character => character == ':' || Text.isBlank character) with
        | some tens, some ones, minuteTens :: minuteOnes :: after =>
            match Decimal.digit? minuteTens, Decimal.digit? minuteOnes with
            | some minuteTens, some minuteOnes =>
                let offset : Int := (tens * 10 + ones) * 3600 + (minuteTens * 10 + minuteOnes) * 60
                if minuteTens < 6 then some (if sign = '+' then offset else -offset, after)
                  else none
            | _, _ => none
        | _, _, _ => none
      else none
  | _ => none

def parse? (text : String) : Option Instant := do
  let (year, rest) ← readYear? text.toList
  let rest ← readMark? '-' rest
  let (month, rest) ← readField? 2 rest
  let rest ← readMark? '-' rest
  let (day, rest) ← readField? 2 rest
  let rest ← match rest with
    | parting :: rest =>
        if parting = 'T' ∨ parting = 't' ∨ parting = ' ' then some rest else none
    | [] => none
  let (hour, rest) ← readField? 2 rest
  let rest ← readMark? ':' rest
  let (minute, rest) ← readField? 2 rest
  let rest ← readMark? ':' rest
  let (second, rest) ← readField? 2 rest
  let (nanos, rest) ← readFraction? rest
  let (offset, rest) ← readOffset? (Text.trimStart rest)
  guard (Text.trimStart rest).isEmpty
  guard (-262143 ≤ year ∧ year ≤ 262142)
  guard (1 ≤ month ∧ month ≤ 12 ∧ 1 ≤ day ∧ day ≤ Time.daysInMonth year month)
  guard (hour < 24 ∧ minute < 60 ∧ second ≤ 60 ∧ offset.natAbs < 86400)
  let leap := second = 60
  let seconds := (Time.CivilDate.mk year month day).dayNumber * 86400 +
    (hour * 3600 + minute * 60 + (if leap then 59 else second) : Nat) - offset
  guard (firstSecond ≤ seconds ∧ seconds ≤ lastSecond)
  return { seconds, nanos := if leap then nanos + 1000000000 else nanos }

end CandleAlerts.Instant
