import CandleAlerts.Time.Civil

/-!
Instants and spans of time.
-/

namespace CandleAlerts

/-- A moment in universal time: whole seconds since 1970 and nanoseconds. From `10 ^ 9` nanoseconds
on, the moment lies in a leap second that follows the second named. -/
structure Instant where
  seconds : Int
  nanos : Nat
deriving DecidableEq, Repr

namespace Instant

/-- The moment a number of milliseconds after the beginning of 1970. -/
def ofMilliseconds (milliseconds : Int) : Instant :=
  { seconds := milliseconds / 1000, nanos := (milliseconds % 1000).toNat * 1000000 }

/-- The first second of the calendar that instants are kept in. -/
def firstSecond : Int := (Time.CivilDate.mk (-262143) 1 1).dayNumber * 86400

/-- The last second of the calendar that instants are kept in. -/
def lastSecond : Int := (Time.CivilDate.mk 262142 12 31).dayNumber * 86400 + 86399

/-- The beginning of a second, if the calendar reaches that far. -/
def ofSeconds? (seconds : Int) : Option Instant :=
  if firstSecond ≤ seconds ∧ seconds ≤ lastSecond then some { seconds, nanos := 0 } else none

/-- The moment some minutes later, if the calendar has them left. -/
def addMinutes (instant : Instant) (minutes : Nat) : Instant :=
  { instant with seconds := instant.seconds + 60 * minutes }

/-- Whether the calendar goes on for some minutes after a moment. -/
def hasMinutesLeft (instant : Instant) (minutes : Nat) : Bool :=
  instant.seconds + 60 * minutes ≤ lastSecond

def notAfter (first second : Instant) : Bool :=
  first.seconds < second.seconds || (first.seconds == second.seconds && first.nanos ≤ second.nanos)

end Instant

/-- A span of milliseconds as a message shows it: in seconds from one second on, else in
milliseconds, with a decimal fraction where needed. -/
def spanText (milliseconds : Nat) : String :=
  if milliseconds = 0 then "0ns"
  else if milliseconds < 1000 then toString milliseconds ++ "ms"
  else
    let rest := milliseconds % 1000
    let digits := (toString (1000 + rest)).toList.drop 1
    let fraction := (digits.reverse.dropWhile (· == '0')).reverse
    toString (milliseconds / 1000) ++
      String.ofList (if fraction.isEmpty then [] else '.' :: fraction) ++ "s"

end CandleAlerts
