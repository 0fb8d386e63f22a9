import CandleAlerts.Text.Blank
import CandleAlerts.Decimal.Read
import CandleAlerts.Decimal.Written
import CandleAlerts.Word

/-!
Timeframes: the lengths of bars.

A timeframe is a positive whole number of minutes, kept in seconds below `2 ^ 64`. It is written as
a number and a unit (`15m`, `4h`, `1d`, `2w`), with the greatest unit that divides it.
-/

namespace CandleAlerts

/-- The length of a bar. -/
structure Timeframe where
  seconds : Nat
  wholeMinutes : 60 ≤ seconds ∧ seconds % 60 = 0
  fitsWord : seconds < UInt64.size
deriving DecidableEq

namespace Timeframe

def secondsPerMinute : Nat := 60
def secondsPerHour : Nat := 3600
def secondsPerDay : Nat := 86400
def secondsPerWeek : Nat := 604800

def hour : Timeframe := ⟨secondsPerHour, by decide, by decide⟩

/-- The timeframe of a number of seconds, if it is one. -/
def ofSeconds? (seconds : Nat) : Option Timeframe :=
  if valid : (60 ≤ seconds ∧ seconds % 60 = 0) ∧ seconds < UInt64.size then
    some ⟨seconds, valid.1, valid.2⟩
  else none

/-- The length of a unit. No unit means minutes; hours, days and weeks are read in either letter
case. -/
def unitSeconds? (unit : List Char) : Option Nat :=
  if unit = [] ∨ unit = ['m'] ∨ unit = ['m', 'i', 'n'] then some secondsPerMinute
  else if unit = ['h'] ∨ unit = ['H'] then some secondsPerHour
  else if unit = ['d'] ∨ unit = ['D'] then some secondsPerDay
  else if unit = ['w'] ∨ unit = ['W'] then some secondsPerWeek
  else none

/-- Read a timeframe: digits and a unit, blanks around them. Without digits the count is one. -/
def parse? (text : String) : Option Timeframe :=
  let trimmed := Text.trimBlanks text.toList
  if trimmed.isEmpty then none
  else
    let digits := trimmed.takeWhile Char.isDigit
    let count? :=
      if digits.isEmpty then some 1 else (Decimal.readNat (UInt64.size - 1) digits).toOption
    match count?, unitSeconds? (trimmed.dropWhile Char.isDigit) with
    | some count, some unit => if count = 0 then none else ofSeconds? (count * unit)
    | _, _ => none

/-- The text of a timeframe, as characters. -/
def write (timeframe : Timeframe) : List Char :=
  let seconds := timeframe.seconds
  if seconds % secondsPerWeek = 0 then Nat.toDigits 10 (seconds / secondsPerWeek) ++ ['w']
  else if seconds % secondsPerDay = 0 then Nat.toDigits 10 (seconds / secondsPerDay) ++ ['d']
  else if seconds % secondsPerHour = 0 then Nat.toDigits 10 (seconds / secondsPerHour) ++ ['h']
  else Nat.toDigits 10 (seconds / secondsPerMinute) ++ ['m']

def text (timeframe : Timeframe) : String := String.ofList timeframe.write

def refusal (given : String) : String := "invalid timeframe `" ++ given ++ "`"

/-- The number of the bar that holds an instant given in seconds. The length is taken as a signed
word, so one beyond `2 ^ 63` counts as negative. -/
def barIndex (timeframe : Timeframe) (time : Int) : Int :=
  time / Word.wrap timeframe.seconds

/-- Whether bars of this length consist of whole bars of the other. -/
def isMultipleOf (timeframe other : Timeframe) : Bool :=
  timeframe.seconds % other.seconds == 0

def compareLength (timeframe other : Timeframe) : Ordering :=
  compare timeframe.seconds other.seconds

example : (parse? " 4H ").map text = some "4h" := by decide
example : (parse? "90").map text = some "90m" := by decide
example : parse? "0m" = none := by decide

end Timeframe

end CandleAlerts
