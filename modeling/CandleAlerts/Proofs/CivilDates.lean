import CandleAlerts.Time.Instant
import Mathlib.Tactic.IntervalCases

/-!
Days and dates.

Counted from the March in which an era begins, a day stands in one of four centuries, there in one
of twenty-five cycles of four years, and there in one of four years, of which only the last may have
a leap day. The date that is computed from a day's number is a date of the calendar and has that
number again.
-/

namespace CandleAlerts.Time

/-- The parts of a day of an era. -/
structure EraDay where
  century : Int
  cycle : Int
  year : Int
  day : Int

namespace EraDay

def number (parts : EraDay) : Int :=
  36524 * parts.century + 1461 * parts.cycle + 365 * parts.year + parts.day

def yearOfEra (parts : EraDay) : Int := 100 * parts.century + 4 * parts.cycle + parts.year

/-- The parts are in range. A leap day ends the last year of a cycle, but of the last cycles of
centuries only that of the last century has one. -/
structure InRange (parts : EraDay) : Prop where
  century : 0 ≤ parts.century ∧ parts.century ≤ 3
  cycle : 0 ≤ parts.cycle ∧ parts.cycle ≤ 24
  year : 0 ≤ parts.year ∧ parts.year ≤ 3
  day : 0 ≤ parts.day ∧ parts.day ≤ 365
  leap : parts.day = 365 → parts.year = 3 ∧ (parts.cycle = 24 → parts.century = 3)

theorem exists_parts {dayOfEra : Int} (nonneg : 0 ≤ dayOfEra) (short : dayOfEra < 146097) :
    ∃ parts : EraDay, parts.InRange ∧ parts.number = dayOfEra := by
  obtain ⟨century, centuryIs⟩ : ∃ century, century = min (dayOfEra / 36524) 3 := ⟨_, rfl⟩
  obtain ⟨cycle, cycleIs⟩ : ∃ cycle, cycle = (dayOfEra - 36524 * century) / 1461 := ⟨_, rfl⟩
  obtain ⟨left, leftIs⟩ : ∃ left, left = dayOfEra - 36524 * century - 1461 * cycle := ⟨_, rfl⟩
  obtain ⟨year, yearIs⟩ : ∃ year, year = min (left / 365) 3 := ⟨_, rfl⟩
  have centuryRange : 0 ≤ century ∧ century ≤ 3 := by omega
  have rest : 0 ≤ dayOfEra - 36524 * century ∧ dayOfEra - 36524 * century ≤ 36524 ∧
      (dayOfEra - 36524 * century = 36524 → century = 3) := by omega
  have leftRange : 0 ≤ left ∧ left ≤ 1460 := by omega
  refine ⟨⟨century, cycle, year, left - 365 * year⟩, ⟨centuryRange, ?_, ?_, ?_, ?_⟩, ?_⟩
  · dsimp only
    omega
  · dsimp only
    omega
  · dsimp only
    omega
  · dsimp only
    omega
  · simp only [number]
    omega

/-- The year is found from the day by counting the leap days before it as no days. -/
theorem yearOfEra_eq {parts : EraDay} (inRange : parts.InRange) :
    (parts.number - parts.number / 1460 + parts.number / 36524 - parts.number / 146096) / 365 =
      parts.yearOfEra := by
  rcases inRange with ⟨century, cycle, year, day, leap⟩
  rcases parts with ⟨centuryPart, cyclePart, yearPart, dayPart⟩
  dsimp only at century cycle year day leap
  simp only [number, yearOfEra]
  have whole : (36524 * centuryPart + 1461 * cyclePart + 365 * yearPart + dayPart) / 1460 =
      25 * centuryPart + cyclePart +
        (24 * centuryPart + cyclePart + 365 * yearPart + dayPart) / 1460 := by
    omega
  have few : (24 * centuryPart + cyclePart + 365 * yearPart + dayPart) / 1460 = 0 ∨
      ((24 * centuryPart + cyclePart + 365 * yearPart + dayPart) / 1460 = 1 ∧ yearPart = 3) := by
    omega
  rcases Int.lt_or_eq_of_le century.2 with early | rfl
  · have centuries : (36524 * centuryPart + 1461 * cyclePart + 365 * yearPart + dayPart) / 36524 =
        centuryPart := by omega
    have eras :
        (36524 * centuryPart + 1461 * cyclePart + 365 * yearPart + dayPart) / 146096 = 0 := by
      omega
    omega
  · have centuries : (36524 * 3 + 1461 * cyclePart + 365 * yearPart + dayPart) / 36524 -
        (36524 * 3 + 1461 * cyclePart + 365 * yearPart + dayPart) / 146096 = 3 := by omega
    omega

theorem yearOfEra_range {parts : EraDay} (inRange : parts.InRange) :
    0 ≤ parts.yearOfEra ∧ parts.yearOfEra ≤ 399 := by
  rcases inRange with ⟨century, cycle, year, -, -⟩
  unfold yearOfEra
  omega

/-- What is left of a day's number when the years before it are taken away is the day of its
year. -/
theorem number_eq {parts : EraDay} (inRange : parts.InRange) :
    parts.number = 365 * parts.yearOfEra + parts.yearOfEra / 4 - parts.yearOfEra / 100 +
      parts.day := by
  rcases inRange with ⟨century, cycle, year, -, -⟩
  unfold number yearOfEra
  omega

end EraDay

/-! ## Dates -/

namespace EraDay

/-- The month, counted from March. -/
def monthFromMarch (parts : EraDay) : Int := (5 * parts.day + 2) / 153

def month (parts : EraDay) : Int :=
  if parts.monthFromMarch < 10 then parts.monthFromMarch + 3 else parts.monthFromMarch - 9

def dayOfMonth (parts : EraDay) : Int :=
  parts.day - (153 * parts.monthFromMarch + 2) / 5 + 1

/-- The date of a day of an era. January and February belong to the year after the one that began in
March. -/
def date (parts : EraDay) (era : Int) : CivilDate :=
  { year := if parts.month ≤ 2 then parts.yearOfEra + era * 400 + 1
      else parts.yearOfEra + era * 400
    month := parts.month.toNat
    day := parts.dayOfMonth.toNat }

variable {parts : EraDay} (inRange : parts.InRange)
include inRange

theorem monthFromMarch_range : 0 ≤ parts.monthFromMarch ∧ parts.monthFromMarch ≤ 11 := by
  have day := inRange.day
  unfold monthFromMarch
  omega

theorem month_range : 1 ≤ parts.month ∧ parts.month ≤ 12 := by
  have range := monthFromMarch_range inRange
  unfold month
  split <;> omega

theorem month_le_two_iff : parts.month ≤ 2 ↔ 10 ≤ parts.monthFromMarch := by
  have range := monthFromMarch_range inRange
  unfold month
  split <;> omega

theorem one_le_dayOfMonth : 1 ≤ parts.dayOfMonth := by
  have day := inRange.day
  unfold dayOfMonth monthFromMarch
  omega

/-- A date has the number of the day that it was made of. -/
theorem dayNumber_date (era : Int) :
    (parts.date era).dayNumber = era * 146097 + parts.number - 719468 := by
  have range := monthFromMarch_range inRange
  have least := one_le_dayOfMonth inRange
  have whole := number_eq inRange
  have years := yearOfEra_range inRange
  have late := month_le_two_iff inRange
  have fromMarch : ((((parts.date era).month + 9) % 12 : Nat) : Int) = parts.monthFromMarch := by
    have months := month_range inRange
    have named : parts.month = if parts.monthFromMarch < 10 then parts.monthFromMarch + 3
      else parts.monthFromMarch - 9 := rfl
    change (((parts.month.toNat + 9) % 12 : Nat) : Int) = _
    split at named <;> omega
  have day : (((parts.date era).day - 1 : Nat) : Int) = parts.dayOfMonth - 1 := by
    change ((parts.dayOfMonth.toNat - 1 : Nat) : Int) = _
    omega
  have year : (if (parts.date era).month ≤ 2 then (parts.date era).year - 1
      else (parts.date era).year) = parts.yearOfEra + era * 400 := by
    have months := month_range inRange
    change (if parts.month.toNat ≤ 2 then (if parts.month ≤ 2 then _ else _) - 1
      else (if parts.month ≤ 2 then _ else _)) = _
    by_cases early : parts.month ≤ 2
    · rw [if_pos (by omega), if_pos early]
      omega
    · rw [if_neg (by omega), if_neg early]
  have dayOfYear : (153 * parts.monthFromMarch + 2) / 5 + (parts.dayOfMonth - 1) = parts.day := by
    unfold dayOfMonth
    omega
  simp only [CivilDate.dayNumber]
  rw [year, fromMarch, day, dayOfYear]
  omega

/-- Only a leap year has a leap day. -/
theorem isLeapYear_of_leap (era : Int) (leap : parts.day = 365) :
    isLeapYear (parts.yearOfEra + era * 400 + 1) = true := by
  rcases inRange.leap leap with ⟨last, lastCycle⟩
  have century := inRange.century
  have cycle := inRange.cycle
  unfold isLeapYear yearOfEra
  rw [last]
  simp only [Bool.and_eq_true, Bool.or_eq_true, beq_iff_eq, bne_iff_ne]
  refine ⟨by omega, ?_⟩
  rcases Int.lt_or_eq_of_le cycle.2 with early | late
  · exact .inl (by omega)
  · have final := lastCycle late
    exact .inr (by omega)

omit inRange in
/-- The days between the beginnings of a month and of the next, from March to January. -/
theorem daysInMonth_eq (year : Int) {fromMarch : Int} (range : 0 ≤ fromMarch ∧ fromMarch ≤ 10) :
    ((daysInMonth year
        (if fromMarch < 10 then fromMarch + 3 else fromMarch - 9).toNat : Nat) : Int) =
      (153 * (fromMarch + 1) + 2) / 5 - (153 * fromMarch + 2) / 5 := by
  rcases range with ⟨low, high⟩
  interval_cases fromMarch <;> rfl

/-- The day is one of its month. -/
theorem day_date_le (era : Int) :
    (parts.date era).day ≤ daysInMonth (parts.date era).year (parts.date era).month := by
  have range := monthFromMarch_range inRange
  have day := inRange.day
  have leap := isLeapYear_of_leap inRange era
  have months : parts.monthFromMarch = (5 * parts.day + 2) / 153 := rfl
  have days : parts.dayOfMonth = parts.day - (153 * parts.monthFromMarch + 2) / 5 + 1 := rfl
  change parts.dayOfMonth.toNat ≤ daysInMonth _ parts.month.toNat
  rcases Int.lt_or_eq_of_le range.2 with early | february
  · have length := daysInMonth_eq (parts.date era).year
      (show 0 ≤ parts.monthFromMarch ∧ parts.monthFromMarch ≤ 10 by omega)
    change ((daysInMonth _ parts.month.toNat : Nat) : Int) = _ at length
    omega
  · have second : parts.month = 2 := by
      unfold month
      rw [february]
      rfl
    have year : (parts.date era).year = parts.yearOfEra + era * 400 + 1 := by
      simp only [date, second]
      rfl
    rw [second, year]
    change _ ≤ if isLeapYear _ then 29 else 28
    split
    · omega
    next common =>
        have noLeap : parts.day ≠ 365 := fun same => common (leap same)
        omega

end EraDay

theorem exists_ofDayNumber (number : Int) :
    ∃ era parts, EraDay.InRange parts ∧ CivilDate.ofDayNumber number = parts.date era ∧
      number = era * 146097 + parts.number - 719468 := by
  obtain ⟨parts, inRange, same⟩ := EraDay.exists_parts
    (Int.emod_nonneg (number + 719468) (by decide : (146097 : Int) ≠ 0))
    (Int.emod_lt_of_pos (number + 719468) (by decide))
  refine ⟨(number + 719468) / 146097, parts, inRange, ?_, by omega⟩
  have year := EraDay.yearOfEra_eq inRange
  have whole := EraDay.number_eq inRange
  have day : parts.number - (365 * parts.yearOfEra + parts.yearOfEra / 4 - parts.yearOfEra / 100) =
      parts.day := by omega
  simp only [CivilDate.ofDayNumber, ← same, year, day]
  rfl

/-- A month of the year and a day of that month. -/
def CivilDate.IsDate (date : CivilDate) : Prop :=
  1 ≤ date.month ∧ date.month ≤ 12 ∧ 1 ≤ date.day ∧ date.day ≤ daysInMonth date.year date.month

theorem isDate_ofDayNumber (number : Int) : (CivilDate.ofDayNumber number).IsDate := by
  obtain ⟨era, parts, inRange, date, -⟩ := exists_ofDayNumber number
  have month := EraDay.month_range inRange
  have day := EraDay.one_le_dayOfMonth inRange
  rw [date]
  refine ⟨?_, ?_, ?_, EraDay.day_date_le inRange era⟩
  · change 1 ≤ parts.month.toNat
    omega
  · change parts.month.toNat ≤ 12
    omega
  · change 1 ≤ parts.dayOfMonth.toNat
    omega

/-- The date of a day has the number of that day. -/
theorem dayNumber_ofDayNumber (number : Int) :
    (CivilDate.ofDayNumber number).dayNumber = number := by
  obtain ⟨era, parts, inRange, date, whole⟩ := exists_ofDayNumber number
  rw [date, EraDay.dayNumber_date inRange, whole]

theorem daysInMonth_le (year : Int) (month : Nat) : daysInMonth year month ≤ 31 := by
  unfold daysInMonth
  split
  · split <;> decide
  · split <;> decide

/-- The numbers of the first and the last day of the calendar that instants are kept in. -/
theorem firstDay_eq : (CivilDate.mk (-262143) 1 1).dayNumber = -96465292 := rfl

theorem lastDay_eq : (CivilDate.mk 262142 12 31).dayNumber = 95026236 := rfl

/-- A day of the calendar that instants are kept in has a date of one of its years. -/
theorem year_ofDayNumber_range {number : Int}
    (first : (CivilDate.mk (-262143) 1 1).dayNumber ≤ number)
    (last : number ≤ (CivilDate.mk 262142 12 31).dayNumber) :
    -262143 ≤ (CivilDate.ofDayNumber number).year ∧
      (CivilDate.ofDayNumber number).year ≤ 262142 := by
  obtain ⟨era, parts, inRange, date, whole⟩ := exists_ofDayNumber number
  rw [firstDay_eq] at first
  rw [lastDay_eq] at last
  have days := EraDay.number_eq inRange
  have years := EraDay.yearOfEra_range inRange
  have late := EraDay.month_le_two_iff inRange
  have months : parts.monthFromMarch = (5 * parts.day + 2) / 153 := rfl
  have day := inRange.day
  have year : (parts.date era).year = if parts.month ≤ 2 then parts.yearOfEra + era * 400 + 1
      else parts.yearOfEra + era * 400 := rfl
  have eras : -656 ≤ era ∧ era ≤ 655 := by omega
  rw [date, year]
  clear date year
  -- only in the first and the last era does the year depend on the day
  rcases Int.lt_or_eq_of_le eras.1 with afterFirst | rfl
  · rcases Int.lt_or_eq_of_le eras.2 with beforeLast | rfl
    · split <;> omega
    · split <;> omega
  · split <;> omega

end CandleAlerts.Time
