import CandleAlerts.Proofs.CivilDates
import CandleAlerts.Proofs.SignatureTexts
import CandleAlerts.Time.Rfc3339

/-!
The texts of instants read back.

Each part of a date and of a time is written with a fixed number of digits, but for a year beyond
four digits, which has a sign; the reader finds the parts again. So every instant of the calendar is
read back as itself.
-/

namespace CandleAlerts.Instant

open Decimal Text

/-! ## Numbers with zeros in front -/

theorem padded_eq (width number : Nat) :
    padded width number =
      List.replicate (width - (Nat.toDigits 10 number).length) '0' ++ Nat.toDigits 10 number := rfl

theorem allDigits_padded (width number : Nat) : AllDigits (padded width number) :=
  AllDigits.append_iff.mpr ⟨.replicate_zero _, .toDigits number⟩

theorem padded_ne_nil (width number : Nat) : padded width number ≠ [] := by
  simp [padded_eq, Nat.toDigits_ne_nil]

theorem value_padded (width number : Nat) :
    Nat.ofDigitChars 10 (padded width number) 0 = number := by
  rw [padded_eq, Nat.ofDigitChars_append, Nat.ofDigitChars_replicate_zero, Nat.mul_zero]
  exact Nat.ofDigitChars_ten_toDigits

theorem length_padded {width number : Nat} (some : 0 < width) (fits : number < 10 ^ width) :
    (padded width number).length = width := by
  have short := (Nat.length_toDigits_le_iff (by decide) some).mpr fits
  simp [padded_eq, short]

theorem head_padded (width number : Nat) :
    ∃ first rest, padded width number = first :: rest ∧ first.isDigit = true := by
  obtain ⟨first, rest, parts⟩ := List.exists_cons_of_ne_nil (padded_ne_nil width number)
  have all := allDigits_padded width number
  rw [parts, AllDigits.cons_iff] at all
  exact ⟨first, rest, parts, all.1⟩

/-! ## Fields -/

theorem trimStart_of_not_blank {first : Char} (rest : List Char) (noBlank : isBlank first = false) :
    trimStart (first :: rest) = first :: rest := by
  rw [trimStart, List.dropWhile_cons_of_neg (by simp [noBlank])]

theorem trimStart_padded (width number : Nat) (rest : List Char) :
    trimStart (padded width number ++ rest) = padded width number ++ rest := by
  obtain ⟨first, more, parts, isDigit⟩ := head_padded width number
  rw [parts, List.cons_append]
  exact trimStart_of_not_blank _ (isBlank_of_isDigit isDigit)

theorem readMark?_cons {mark : Char} (noBlank : isBlank mark = false) (rest : List Char) :
    readMark? mark (mark :: rest) = some rest := by
  rw [readMark?, trimStart_of_not_blank rest noBlank]
  simp

/-- A field is read up to its width or to the first character that is no digit. -/
theorem readField?_padded {width places number : Nat} {rest : List Char}
    (fits : number ≤ Word.greatest.toNat) (short : (padded places number).length ≤ width)
    (ends : ∀ character ∈ (rest.take (width - (padded places number).length)).head?,
      character.isDigit = false) :
    readField? width (padded places number ++ rest) = some (number, rest) := by
  have all := allDigits_padded places number
  have given := padded_ne_nil places number
  have value := value_padded places number
  have digits : ((padded places number ++ rest).take width).takeWhile Char.isDigit =
      padded places number := by
    rw [List.take_append, List.take_of_length_le short]
    exact all.takeWhile_append ends
  have read : readNat Word.greatest.toNat (padded places number) = .ok number := by
    rw [readNat_eq_ok all given (by rw [value]; exact fits), value]
  have some : (padded places number).isEmpty = false := List.isEmpty_eq_false_iff.mpr given
  simp only [readField?, trimStart_padded, digits, read, some, Bool.false_eq_true, if_false,
    List.drop_left]

/-- A field of a fixed width. -/
theorem readField?_of_width {width number : Nat} (some : 0 < width) (few : width ≤ 18)
    (fits : number < 10 ^ width) (rest : List Char) :
    readField? width (padded width number ++ rest) = .some (number, rest) := by
  have length := length_padded some fits
  have power : 10 ^ width ≤ 10 ^ 18 := Nat.pow_le_pow_right (by decide) few
  have greatest : 10 ^ 18 ≤ Word.greatest.toNat := by decide
  refine readField?_padded (by omega) (Nat.le_of_eq length) ?_
  rw [length, Nat.sub_self]
  simp

/-! ## Years -/

theorem readYear?_of_digit {first : Char} (isDigit : first.isDigit = true) (rest : List Char) :
    readYear? (first :: rest) =
      (readField? 4 (first :: rest)).map (fun read => (Int.ofNat read.1, read.2)) := by
  unfold readYear?
  rw [trimStart_of_not_blank rest (isBlank_of_isDigit isDigit)]
  split
  next same =>
      cases same
      exact absurd isDigit (by decide)
  next same =>
      cases same
      exact absurd isDigit (by decide)
  next => rfl

/-- After a sign a year may have any number of digits. -/
theorem signed_padded {number : Nat} (fits : number ≤ Word.greatest.toNat) {next : Char}
    (ends : next.isDigit = false) (rest : List Char) :
    readYear?.signed (padded 4 number ++ next :: rest) = some (number, next :: rest) := by
  have field : readField? (padded 4 number ++ next :: rest).length
      (padded 4 number ++ next :: rest) = some (number, next :: rest) :=
    readField?_padded fits (by simp) (by simp [ends])
  obtain ⟨first, more, parts, isDigit⟩ := head_padded 4 number
  rw [parts] at field ⊢
  rw [List.cons_append] at field ⊢
  unfold readYear?.signed
  simp only [isDigit, if_true]
  exact field

/-- A year is read up to the character after it, which is no digit. -/
theorem readYear?_writeYear {year : Int} (first : -262143 ≤ year) (last : year ≤ 262142)
    {next : Char} (ends : next.isDigit = false) (rest : List Char) :
    readYear? (writeYear year ++ next :: rest) = some (year, next :: rest) := by
  have greatest : 262143 ≤ Word.greatest.toNat := by decide
  unfold writeYear
  by_cases few : 0 ≤ year ∧ year ≤ 9999
  · have field : readField? 4 (padded 4 year.toNat ++ next :: rest) =
        some (year.toNat, next :: rest) :=
      readField?_of_width (by decide) (by decide) (by omega) (next :: rest)
    obtain ⟨head, more, parts, isDigit⟩ := head_padded 4 year.toNat
    rw [if_pos few]
    rw [parts, List.cons_append] at field ⊢
    rw [readYear?_of_digit isDigit, field]
    simp [few.1]
  · have magnitude : year.natAbs ≤ Word.greatest.toNat := by omega
    have signed := signed_padded magnitude ends rest
    rw [if_neg few, List.cons_append]
    by_cases negative : year < 0
    · have back : -Int.ofNat year.natAbs = year := by
        change -(year.natAbs : Int) = year
        omega
      rw [if_pos negative]
      unfold readYear?
      rw [trimStart_of_not_blank _ (by decide)]
      simp only [signed, Option.map_some, back]
    · have back : Int.ofNat year.natAbs = year := by
        change (year.natAbs : Int) = year
        omega
      rw [if_neg negative]
      unfold readYear?
      rw [trimStart_of_not_blank _ (by decide)]
      simp only [signed, Option.map_some, back]

/-! ## Fractions -/

theorem readFraction?_padded {places number : Nat} (some : 0 < places) (few : places ≤ 9)
    (fits : number < 10 ^ places) {next : Char} (ends : next.isDigit = false) (rest : List Char) :
    readFraction? ('.' :: (padded places number ++ next :: rest)) =
      .some (number * 10 ^ (9 - places), next :: rest) := by
  have all := allDigits_padded places number
  have length := length_padded some fits
  have value := value_padded places number
  have afterDigits : ∀ character ∈ (next :: rest).head?, character.isDigit = false := by
    simpa using ends
  have given : (padded places number).isEmpty = false :=
    List.isEmpty_eq_false_iff.mpr (padded_ne_nil places number)
  have kept : (padded places number).take 9 = padded places number :=
    List.take_of_length_le (by omega)
  simp only [readFraction?, all.takeWhile_append afterDigits, all.dropWhile_append afterDigits,
    given, Bool.false_eq_true, if_false, kept, gathered_eq all, value, length]
  rfl

/-- Nanoseconds are read back from the fewest of no, three, six or nine digits. -/
theorem readFraction?_writeFraction {nanos : Nat} (below : nanos < 10 ^ 9) {next : Char}
    (noPoint : next ≠ '.') (ends : next.isDigit = false) (rest : List Char) :
    readFraction? (writeFraction nanos ++ next :: rest) = some (nanos, next :: rest) := by
  unfold writeFraction
  split
  next zero =>
      rw [zero, List.nil_append]
      unfold readFraction?
      split
      next same => exact absurd (List.cons.inj same).1 noPoint
      next => rfl
  next =>
      split
      next millis =>
          rw [List.cons_append, readFraction?_padded (by decide) (by decide) (by omega) ends]
          have whole : nanos / 1000000 * 10 ^ (9 - 3) = nanos := by omega
          rw [whole]
      next =>
          split
          next micros =>
              rw [List.cons_append, readFraction?_padded (by decide) (by decide) (by omega) ends]
              have whole : nanos / 1000 * 10 ^ (9 - 6) = nanos := by omega
              rw [whole]
          next =>
              rw [List.cons_append, readFraction?_padded (by decide) (by decide) below ends]
              have whole : nanos * 10 ^ (9 - 9) = nanos := by omega
              rw [whole]

/-! ## Instants -/

/-- An instant of the calendar that lies in no leap second. -/
structure Representable (instant : Instant) : Prop where
  first : firstSecond ≤ instant.seconds
  last : instant.seconds ≤ lastSecond
  nanos : instant.nanos < 1000000000

/-- The text of an instant in its parts, one after the other. -/
theorem write_eq {instant : Instant} (noLeap : instant.nanos < 1000000000) :
    let date := Time.CivilDate.ofDayNumber (instant.seconds / 86400)
    let second := (instant.seconds % 86400).toNat
    instant.write = writeYear date.year ++ '-' :: (padded 2 date.month ++ '-' ::
      (padded 2 date.day ++ 'T' :: (padded 2 (second / 3600) ++ ':' ::
        (padded 2 (second / 60 % 60) ++ ':' :: (padded 2 (second % 60) ++
          (writeFraction instant.nanos ++ ['Z'])))))) := by
  have leap : ¬ 1000000000 ≤ instant.nanos := Nat.not_le.mpr noLeap
  simp only [write, leap, if_false, Nat.add_zero, List.append_assoc, List.cons_append]

theorem guard_of {condition : Prop} [Decidable condition] (holds : condition) :
    (guard condition : Option Unit) = some () := if_pos holds

theorem readField?_two {number : Nat} (fits : number < 10 ^ 2) (rest : List Char) :
    readField? 2 (padded 2 number ++ rest) = some (number, rest) :=
  readField?_of_width (by decide) (by decide) fits rest

/-- A date and a time of day on the calendar are found again, part by part; the second after the
last of a minute is read as a leap second. -/
theorem parse?_shown {date : Time.CivilDate} (isDate : date.IsDate)
    (years : -262143 ≤ date.year ∧ date.year ≤ 262142) {minutes shown nanos : Nat}
    (inDay : minutes < 1440) (inMinute : shown ≤ 60) (fraction : nanos < 1000000000)
    (onCalendar : firstSecond ≤ date.dayNumber * 86400 +
        (minutes * 60 + if shown = 60 then 59 else shown : Nat) ∧
      date.dayNumber * 86400 + (minutes * 60 + if shown = 60 then 59 else shown : Nat) ≤ lastSecond)
    {text : String}
    (written : text.toList = writeYear date.year ++ '-' :: (padded 2 date.month ++ '-' ::
      (padded 2 date.day ++ 'T' :: (padded 2 (minutes / 60) ++ ':' ::
        (padded 2 (minutes % 60) ++ ':' :: (padded 2 shown ++
          (writeFraction nanos ++ ['Z']))))))) :
    parse? text = some
      ⟨date.dayNumber * 86400 + (minutes * 60 + if shown = 60 then 59 else shown : Nat),
        if shown = 60 then nanos + 1000000000 else nanos⟩ := by
  have days := Time.daysInMonth_le date.year date.month
  rcases isDate with ⟨someMonth, months, someDay, monthDays⟩
  have year (rest : List Char) :
      readYear? (writeYear date.year ++ '-' :: rest) = some (date.year, '-' :: rest) :=
    readYear?_writeYear years.1 years.2 (by decide) rest
  have dash (rest : List Char) : readMark? '-' ('-' :: rest) = some rest :=
    readMark?_cons (by decide) rest
  have colon (rest : List Char) : readMark? ':' (':' :: rest) = some rest :=
    readMark?_cons (by decide) rest
  have month := readField?_two (show date.month < 10 ^ 2 by omega)
  have day := readField?_two (show date.day < 10 ^ 2 by omega)
  have hour := readField?_two (show minutes / 60 < 10 ^ 2 by omega)
  have minute := readField?_two (show minutes % 60 < 10 ^ 2 by omega)
  have lastField := readField?_two (show shown < 10 ^ 2 by omega)
  have fractionRead : readFraction? (writeFraction nanos ++ ['Z']) = some (nanos, ['Z']) :=
    readFraction?_writeFraction fraction (by decide) (by decide) []
  have offset : readOffset? (trimStart ['Z']) = some (0, []) := by decide
  have time : minutes / 60 < 24 ∧ minutes % 60 < 60 ∧ shown ≤ 60 ∧
      (0 : Int).natAbs < 86400 := by
    refine ⟨by omega, by omega, inMinute, by decide⟩
  have whole : (Time.CivilDate.mk date.year date.month date.day).dayNumber * 86400 +
      ((minutes / 60 * 3600 + minutes % 60 * 60 + (if shown = 60 then 59 else shown) : Nat) : Int) -
        0 =
        date.dayNumber * 86400 + (minutes * 60 + if shown = 60 then 59 else shown : Nat) := by
    change date.dayNumber * 86400 + _ - 0 = _
    omega
  unfold parse?
  rw [written]
  simp only [bind, Option.bind, year, dash, month, day, hour, minute, lastField, colon,
    fractionRead, offset, true_or, if_true]
  rw [guard_of (by decide), guard_of years, guard_of ⟨someMonth, months, someDay, monthDays⟩,
    guard_of time]
  simp only [whole]
  rw [guard_of onCalendar]
  rfl

/-- The second of a day is that of its minute. -/
theorem parse?_parts {date : Time.CivilDate} (isDate : date.IsDate)
    (years : -262143 ≤ date.year ∧ date.year ≤ 262142) {second nanos : Nat}
    (inDay : second < 86400) (noLeap : nanos < 1000000000)
    (onCalendar : firstSecond ≤ date.dayNumber * 86400 + second ∧
      date.dayNumber * 86400 + second ≤ lastSecond) {text : String}
    (written : text.toList = writeYear date.year ++ '-' :: (padded 2 date.month ++ '-' ::
      (padded 2 date.day ++ 'T' :: (padded 2 (second / 3600) ++ ':' ::
        (padded 2 (second / 60 % 60) ++ ':' :: (padded 2 (second % 60) ++
          (writeFraction nanos ++ ['Z']))))))) :
    parse? text = some ⟨date.dayNumber * 86400 + second, nanos⟩ := by
  have noSixty : ¬ second % 60 = 60 := by omega
  have whole : second / 60 * 60 + second % 60 = second := Nat.div_add_mod' second 60
  have hours : second / 3600 = second / 60 / 60 := by omega
  rw [hours] at written
  have read := parse?_shown isDate years (show second / 60 < 1440 by omega)
    (show second % 60 ≤ 60 by omega) noLeap (by rw [if_neg noSixty, whole]; exact onCalendar)
    written
  rw [if_neg noSixty, if_neg noSixty, whole] at read
  exact read

/-- The days of the instants on the calendar. -/
theorem days_of_range {seconds : Int} (first : firstSecond ≤ seconds)
    (last : seconds ≤ lastSecond) :
    (Time.CivilDate.mk (-262143) 1 1).dayNumber ≤ seconds / 86400 ∧
      seconds / 86400 ≤ (Time.CivilDate.mk 262142 12 31).dayNumber := by
  unfold firstSecond at first
  unfold lastSecond at last
  omega

/-- An instant of the calendar that lies in no leap second is read back. -/
theorem parse?_text {instant : Instant} (representable : instant.Representable) :
    parse? instant.text = some instant := by
  have number := Time.dayNumber_ofDayNumber (instant.seconds / 86400)
  have same : (Time.CivilDate.ofDayNumber (instant.seconds / 86400)).dayNumber * 86400 +
      ((instant.seconds % 86400).toNat : Int) = instant.seconds := by
    rw [number]
    omega
  have onCalendar : firstSecond ≤ instant.seconds ∧ instant.seconds ≤ lastSecond :=
    ⟨representable.first, representable.last⟩
  have days := days_of_range representable.first representable.last
  have years := Time.year_ofDayNumber_range days.1 days.2
  have written : instant.text.toList = instant.write := String.toList_ofList
  rw [write_eq representable.nanos] at written
  rw [parse?_parts (Time.isDate_ofDayNumber _) years (by omega) representable.nanos
    (same.symm ▸ onCalendar) written, same]

/-! ## Leap seconds -/

/-- An instant of the calendar. A leap second may follow on the last second of a minute only. -/
structure OnCalendar (instant : Instant) : Prop where
  first : firstSecond ≤ instant.seconds
  last : instant.seconds ≤ lastSecond
  nanos : instant.nanos < 2000000000
  leap : 1000000000 ≤ instant.nanos → instant.seconds % 60 = 59

/-- Every instant of the calendar is read back. -/
theorem OnCalendar.parse?_text {instant : Instant} (onCalendar : instant.OnCalendar) :
    parse? instant.text = some instant := by
  by_cases leap : 1000000000 ≤ instant.nanos
  · have lastOfMinute := onCalendar.leap leap
    have below := onCalendar.nanos
    have number := Time.dayNumber_ofDayNumber (instant.seconds / 86400)
    have days := days_of_range onCalendar.first onCalendar.last
    have same : (Time.CivilDate.ofDayNumber (instant.seconds / 86400)).dayNumber * 86400 +
        (((instant.seconds % 86400).toNat / 60 * 60 + if 60 = 60 then 59 else 60 : Nat) : Int) =
          instant.seconds := by
      rw [number, if_pos rfl]
      omega
    have hours : (instant.seconds % 86400).toNat / 3600 =
        (instant.seconds % 86400).toNat / 60 / 60 := by omega
    have sixty : (instant.seconds % 86400).toNat % 60 + 1 = 60 := by omega
    have written : instant.text.toList = instant.write := String.toList_ofList
    simp only [write, leap, if_true, sixty, List.append_assoc, List.cons_append] at written
    rw [hours] at written
    rw [parse?_shown (Time.isDate_ofDayNumber _) (Time.year_ofDayNumber_range days.1 days.2)
      (by omega) (Nat.le_refl 60) (by omega)
      (same.symm ▸ ⟨onCalendar.first, onCalendar.last⟩) written, same, if_pos rfl]
    have back : instant.nanos - 1000000000 + 1000000000 = instant.nanos := by omega
    rw [back]
  · exact Instant.parse?_text ⟨onCalendar.first, onCalendar.last, Nat.not_le.1 leap⟩

end CandleAlerts.Instant
