/-!
The Gregorian calendar, extended to all years.

Days are counted from the first of January 1970. A year is reckoned to begin in March, so that the
leap day is its last; four hundred years make an era of 146097 days.
-/

namespace CandleAlerts.Time

structure CivilDate where
  year : Int
  month : Nat
  day : Nat
deriving DecidableEq, Repr

def isLeapYear (year : Int) : Bool :=
  year % 4 == 0 && (year % 100 != 0 || year % 400 == 0)

def daysInMonth (year : Int) (month : Nat) : Nat :=
  if month = 2 then (if isLeapYear year then 29 else 28)
  else if month = 4 ∨ month = 6 ∨ month = 9 ∨ month = 11 then 30
  else 31

def CivilDate.dayNumber (date : CivilDate) : Int :=
  let year := if date.month ≤ 2 then date.year - 1 else date.year
  let era := year / 400
  let yearOfEra := year % 400
  let monthFromMarch : Nat := (date.month + 9) % 12
  let dayOfYear : Int := (153 * monthFromMarch + 2) / 5 + (date.day - 1 : Nat)
  era * 146097 + yearOfEra * 365 + yearOfEra / 4 - yearOfEra / 100 + dayOfYear - 719468

def CivilDate.ofDayNumber (number : Int) : CivilDate :=
  let shifted := number + 719468
  let era := shifted / 146097
  let dayOfEra := shifted % 146097
  let yearOfEra := (dayOfEra - dayOfEra / 1460 + dayOfEra / 36524 - dayOfEra / 146096) / 365
  let dayOfYear := dayOfEra - (365 * yearOfEra + yearOfEra / 4 - yearOfEra / 100)
  let monthFromMarch := (5 * dayOfYear + 2) / 153
  let day := dayOfYear - (153 * monthFromMarch + 2) / 5 + 1
  let month := if monthFromMarch < 10 then monthFromMarch + 3 else monthFromMarch - 9
  let year := yearOfEra + era * 400
  { year := if month ≤ 2 then year + 1 else year, month := month.toNat, day := day.toNat }

example : CivilDate.ofDayNumber 0 = ⟨1970, 1, 1⟩ := by decide
example : (CivilDate.mk 2024 2 29).dayNumber = 19782 := by decide
example : CivilDate.ofDayNumber 19782 = ⟨2024, 2, 29⟩ := by decide

end CandleAlerts.Time
