import CandleAlerts.Json.Read
import CandleAlerts.Json.Write
import CandleAlerts.Proofs.FloatRounding
import CandleAlerts.Proofs.ShortestDigits

/-!
The numerals of JSON text read back.

A numeral is written in parts: a sign, whole digits, digits after a point, and an exponent. The
reader of text goes through such a numeral to its end and finds the same parts. An integer of 64
bits is read back as itself, and a finite double as a double, for what is written of it is never
beyond the greatest double.
-/

namespace CandleAlerts

/-! ## Doubles as written -/

namespace Decimal

/-- The interval around the greatest double. -/
def greatestInterval : Interval := .around (2 ^ 53 - 1) 971 false

/-- An interval that ends below the middle between the greatest double and the one before it. -/
def Interval.EndsLow (interval : Interval) : Prop :=
  interval.high ≤ Float.secondEnd * interval.denominator

/-- Half the distance of the greatest doubles from each other. -/
@[irreducible] def topHalfStep : Nat := 2 ^ 970

theorem pow_le_topHalfStep {exponent : Int} (limited : exponent ≤ 970) :
    2 ^ exponent.toNat ≤ topHalfStep := by
  unfold topHalfStep
  gcongr
  · decide
  · omega

theorem pow_eq_topStep : 2 ^ 971 = topHalfStep * 2 := by
  unfold topHalfStep
  rw [← pow_succ]

theorem secondEnd_eq : Float.secondEnd = (2 ^ 54 - 3) * topHalfStep := by
  decide +kernel

theorem highest_le {significand : Nat} (step : Nat) (lower : significand < 2 ^ 53 - 1) :
    (4 * significand + 2) * (step * 2) ≤ (2 ^ 54 - 3) * step * (4 * 1) := by
  calc (4 * significand + 2) * (step * 2)
      ≤ (4 * (2 ^ 53 - 2) + 2) * (step * 2) := Nat.mul_le_mul_right _ (by omega)
    _ = (2 ^ 54 - 3) * step * (4 * 1) := by ring

theorem Interval.high_around (significand : Nat) (exponent : Int) (narrowBelow : Bool) :
    (around significand exponent narrowBelow).high =
      (4 * significand + 2) * 2 ^ exponent.toNat := rfl

theorem Interval.denominator_around (significand : Nat) (exponent : Int) (narrowBelow : Bool) :
    (around significand exponent narrowBelow).denominator = 4 * 2 ^ (-exponent).toNat := rfl

theorem Interval.endsLow_around (narrowBelow : Bool) {significand : Nat} {exponent : Int}
    (short : significand < 2 ^ 53) (limited : exponent ≤ 971) :
    (around significand exponent narrowBelow).EndsLow ∨
      (significand = 2 ^ 53 - 1 ∧ exponent = 971) := by
  have lowered : 0 < 2 ^ (-exponent).toNat := Nat.pow_pos (by decide)
  rw [EndsLow, high_around, denominator_around, secondEnd_eq]
  rcases Int.lt_or_eq_of_le limited with lower | rfl
  · have raise : 2 ^ exponent.toNat ≤ topHalfStep := pow_le_topHalfStep (by omega)
    refine .inl ?_
    calc (4 * significand + 2) * 2 ^ exponent.toNat
        ≤ (2 ^ 55 - 2) * topHalfStep := Nat.mul_le_mul (by omega) raise
      _ ≤ (2 ^ 54 - 3) * topHalfStep * 4 := by omega
      _ ≤ (2 ^ 54 - 3) * topHalfStep * (4 * 2 ^ (-exponent).toNat) :=
          Nat.mul_le_mul_left _ (Nat.le_mul_of_pos_right _ lowered)
  · rcases Nat.lt_or_ge significand (2 ^ 53 - 1) with lower | top
    · refine .inl ?_
      have up : (971 : Int).toNat = 971 := rfl
      have down : (-971 : Int).toNat = 0 := rfl
      rw [up, down, pow_eq_topStep, pow_zero]
      exact highest_le topHalfStep lower
    · exact .inr ⟨by omega, rfl⟩

/-- A finite double is zero, or its interval is wide and does not go beyond the doubles. -/
theorem Magnitude.of_isFinite {number : Float} (finite : number.isFinite = true) :
    ofFloat number = .zero ∨
      ∃ interval, ofFloat number = .positive interval ∧ interval.IsWide ∧
        (interval.EndsLow ∨ interval = greatestInterval) := by
  have exponentIs : (@Float.Model.UnpackedFloat.unpackExponent .binary64
      number.toBits.toBitVec).toNat = number.toBits.toNat / 2 ^ 52 % 2 ^ 11 := by
    simp [Float.Model.UnpackedFloat.unpackExponent, Nat.shiftRight_eq_div_pow]
  have notTop : number.toBits.toNat / 2 ^ 52 % 2 ^ 11 ≠ 2047 := by
    rw [← exponentIs]
    intro top
    have ones : @Float.Model.UnpackedFloat.unpackExponent .binary64
        number.toBits.toBitVec = -1#11 := BitVec.eq_of_toNat_eq top
    change (Float.Model.UnpackedFloat.unpack .binary64 number.toBits.toBitVec).isFinite = true
      at finite
    simp only [Float.Model.UnpackedFloat.unpack] at finite
    rw [if_pos ones] at finite
    split at finite <;> cases finite
  have fractionShort : number.toBits.toNat % 2 ^ 52 < 2 ^ 52 := Nat.mod_lt _ (by decide)
  have exponentShort : number.toBits.toNat / 2 ^ 52 % 2 ^ 11 < 2 ^ 11 := Nat.mod_lt _ (by decide)
  simp only [ofFloat, Nat.pow_eq]
  generalize number.toBits.toNat % 2 ^ 52 = fraction at *
  generalize number.toBits.toNat / 2 ^ 52 % 2 ^ 11 = exponent at *
  rw [if_neg notTop]
  split
  next =>
      split
      next => exact .inl rfl
      next notZero =>
          refine .inr ⟨_, rfl, Interval.isWide_around (by omega) (by omega) (by simp), ?_⟩
          have least : (-1074 : Int) ≤ 971 := by decide
          rcases Interval.endsLow_around false (show fraction < 2 ^ 53 by omega) least with
            low | top
          · exact .inl low
          · omega
  next notZero =>
      refine .inr ⟨_, rfl, Interval.isWide_around (by omega) (by omega) ?_, ?_⟩
      · intro narrow
        simp only [Bool.and_eq_true, beq_iff_eq, decide_eq_true_eq] at narrow
        omega
      · have full : 2 ^ 52 + fraction < 2 ^ 53 := by omega
        have limited : (exponent : Int) - 1075 ≤ 971 := by omega
        rcases Interval.endsLow_around (fraction == 0 && decide (1 < exponent)) full limited with
          low | ⟨greatest, last⟩
        · exact .inl low
        · refine .inr ?_
          obtain rfl : fraction = 2 ^ 52 - 1 := by omega
          obtain rfl : exponent = 2046 := by omega
          rfl

theorem secondEnd_ge : 10 ^ 17 ≤ Float.secondEnd := by
  decide +kernel

/-- What stands for a double's interval has fewer digits than would fill seventeen places. -/
theorem Digits.StandFor.significand_lt {number : Digits} {interval : Interval} {count : Nat}
    {unit : Int} (stands : number.StandFor interval count unit) : number.significand < 10 ^ 17 := by
  obtain ⟨zeros, value, -⟩ := significand_ofGridPoint count unit
  rw [← stands.written] at value
  rcases Nat.lt_or_eq_of_le stands.few with below | top
  · refine Nat.lt_of_le_of_lt ?_ below
    rw [← value]
    exact Nat.le_mul_of_pos_right _ (Nat.pow_pos (by decide))
  · have digits : number.digits = ['1'] := by
      rw [stands.written, top]
      change ((Nat.toDigits 10 (10 ^ 17)).reverse.dropWhile (· == '0')).reverse = _
      decide +kernel
    rw [Digits.significand, digits]
    decide

/-- A whole number that stands for an interval is not beyond the doubles. -/
theorem Digits.StandFor.le_secondEnd {number : Digits} {interval : Interval} {count : Nat}
    {unit : Int} (stands : number.StandFor interval count unit) (wide : interval.IsWide)
    (low : interval.EndsLow) (whole : (number.digits.length : Int) ≤ number.point) :
    number.significand * 10 ^ (number.point - number.digits.length).toNat ≤ Float.secondEnd := by
  obtain ⟨zeros, value, point⟩ := significand_ofGridPoint count unit
  rw [← stands.written] at value point
  rcases Int.lt_or_le unit 0 with fine | coarse
  · refine Nat.le_trans (Nat.mul_le_mul_left _ (Nat.pow_le_pow_right (by decide) ?_))
      (Nat.le_trans (Nat.le_trans (Nat.le_of_eq value) stands.few) secondEnd_ge)
    omega
  · have exponent : (number.point - number.digits.length).toNat = zeros + unit.toNat := by omega
    have notAbove := stands.notAbove
    have noRaise : (-unit).toNat = 0 := by omega
    rw [noRaise, pow_zero, Nat.mul_one] at notAbove
    rw [exponent, pow_add, ← Nat.mul_assoc, value]
    refine Nat.le_of_mul_le_mul_right ?_ wide.denominator_pos
    calc count * 10 ^ unit.toNat * interval.denominator
        = count * (interval.denominator * 10 ^ unit.toNat) := by ring
      _ ≤ interval.high := notAbove
      _ ≤ Float.secondEnd * interval.denominator := low

end Decimal

/-! ## Numerals in parts -/

namespace Json

open Decimal

/-- A numeral in its parts as they are written. -/
structure WrittenNumeral where
  negative : Bool
  whole : List Char
  fraction : List Char
  /-- The sign and the digits of the exponent. -/
  power : Option (Bool × List Char)

namespace WrittenNumeral

def powerText : Option (Bool × List Char) → List Char
  | none => []
  | some (negative, digits) => 'e' :: (if negative then '-' else '+') :: digits

def powerValue : Option (Bool × List Char) → Int
  | none => 0
  | some (negative, digits) =>
      if negative then -(Nat.ofDigitChars 10 digits 0 : Nat) else Nat.ofDigitChars 10 digits 0

def fractionText (fraction : List Char) : List Char :=
  if fraction.isEmpty then [] else '.' :: fraction

/-- The text without its sign. -/
def body (written : WrittenNumeral) : List Char :=
  written.whole ++ (fractionText written.fraction ++ powerText written.power)

def text (written : WrittenNumeral) : List Char :=
  (if written.negative then ['-'] else []) ++ written.body

def numeral (written : WrittenNumeral) : Numeral :=
  { negative := written.negative
    whole := written.whole
    fraction := written.fraction
    exponent := powerValue written.power }

/-- The parts are digits; there are whole digits, with no zero in front of others, and digits of an
exponent that is given. -/
structure IsProper (written : WrittenNumeral) : Prop where
  whole : AllDigits written.whole
  given : written.whole ≠ []
  noZero : ∀ second rest, written.whole ≠ '0' :: second :: rest
  fraction : AllDigits written.fraction
  power : ∀ negative digits, written.power = some (negative, digits) →
    AllDigits digits ∧ digits ≠ []

theorem head?_powerText_not_isDigit (power : Option (Bool × List Char)) :
    ∀ character ∈ (powerText power).head?, character.isDigit = false := by
  cases power with
  | none => simp [powerText]
  | some power => simp [powerText]

theorem head?_afterWhole_not_isDigit (fraction : List Char) (power : Option (Bool × List Char)) :
    ∀ character ∈ (fractionText fraction ++ powerText power).head?, character.isDigit = false := by
  unfold fractionText
  split
  · simpa using head?_powerText_not_isDigit power
  · simp

theorem readExponent?_powerText {negative : Bool} {digits : List Char} (all : AllDigits digits)
    (given : digits ≠ []) :
    readExponent? ((if negative then '-' else '+') :: digits) =
      some (powerValue (some (negative, digits))) := by
  have present : (digits.isEmpty || !digits.all Char.isDigit) = false := by
    simp only [Bool.or_eq_false_iff, List.isEmpty_eq_false_iff, Bool.not_eq_false']
    exact ⟨given, List.all_eq_true.mpr all⟩
  cases negative with
  | false =>
      simp only [Bool.false_eq_true, if_false, readExponent?, present, gathered_eq all, powerValue]
      rfl
  | true =>
      simp only [if_true, readExponent?, present, gathered_eq all, powerValue]
      rfl

/-- What stands after the whole digits, parted into the digits after a point and the rest. -/
def splitFraction : List Char → List Char × List Char
  | '.' :: digits => (digits.takeWhile Char.isDigit, digits.dropWhile Char.isDigit)
  | other => ([], other)

theorem splitFraction_text {fraction : List Char} (all : AllDigits fraction)
    (power : Option (Bool × List Char)) :
    splitFraction (fractionText fraction ++ powerText power) = (fraction, powerText power) := by
  have afterFraction := head?_powerText_not_isDigit power
  cases fraction with
  | nil => cases power <;> rfl
  | cons digit digits =>
      exact congrArg₂ Prod.mk (all.takeWhile_append afterFraction)
        (all.dropWhile_append afterFraction)

theorem readUnsigned?_eq (negative : Bool) (text : List Char) :
    readUnsigned? negative text =
      let whole := text.takeWhile Char.isDigit
      let (fraction, rest) := splitFraction (text.dropWhile Char.isDigit)
      if whole.isEmpty && fraction.isEmpty then none
      else match rest with
        | [] => some ⟨negative, whole, fraction, 0⟩
        | mark :: power =>
            if mark = 'e' || mark = 'E' then
              (readExponent? power).map (fun exponent => ⟨negative, whole, fraction, exponent⟩)
            else none := rfl

/-- The parts of a numeral are found in its text. -/
theorem readUnsigned?_body {written : WrittenNumeral} (proper : written.IsProper) :
    readUnsigned? written.negative written.body = some written.numeral := by
  rcases written with ⟨negative, whole, fraction, power⟩
  rcases proper with ⟨all, given, -, fractionDigits, powerDigits⟩
  dsimp only at all given fractionDigits powerDigits
  have afterWhole := head?_afterWhole_not_isDigit fraction power
  have someWhole : (whole.isEmpty && fraction.isEmpty) = false := by
    rw [List.isEmpty_eq_false_iff.mpr given, Bool.false_and]
  rw [readUnsigned?_eq, body]
  dsimp only
  rw [all.takeWhile_append afterWhole, all.dropWhile_append afterWhole,
    splitFraction_text fractionDigits]
  dsimp only
  rw [someWhole, if_neg Bool.false_ne_true]
  cases power with
  | none => rfl
  | some power =>
      rcases power with ⟨negativePower, digits⟩
      rcases powerDigits negativePower digits rfl with ⟨digitsAll, digitsGiven⟩
      simp only [powerText]
      rw [readExponent?_powerText digitsAll digitsGiven]
      rfl

/-- What stands before the first digit that is no sign. -/
theorem head?_body {written : WrittenNumeral} (proper : written.IsProper) :
    ∃ digit rest, written.body = digit :: rest ∧ digit.isDigit = true := by
  rcases written with ⟨negative, whole, fraction, power⟩
  rcases proper with ⟨all, given, -⟩
  cases whole with
  | nil => exact absurd rfl given
  | cons digit digits => exact ⟨digit, _, rfl, (AllDigits.cons_iff.mp all).1⟩

/-- A numeral without its sign, and whether it had one. -/
def splitSign : List Char → Bool × List Char
  | '-' :: rest => (true, rest)
  | other => (false, other)

def wholeAllowed (body : List Char) : Bool :=
  match body.takeWhile Char.isDigit with
  | [] => false
  | '0' :: _ :: _ => false
  | _ => true

def pointAllowed (body : List Char) : Bool :=
  match body.dropWhile Char.isDigit with
  | '.' :: digit :: _ => digit.isDigit
  | '.' :: [] => false
  | _ => true

theorem numeral?_eq (text : List Char) :
    numeral? text =
      if wholeAllowed (splitSign text).2 && pointAllowed (splitSign text).2 then
        readUnsigned? (splitSign text).1 (splitSign text).2
      else none := rfl

theorem splitSign_text {written : WrittenNumeral} (proper : written.IsProper) :
    splitSign written.text = (written.negative, written.body) := by
  obtain ⟨digit, rest, body, isDigit⟩ := head?_body proper
  unfold text
  cases written.negative with
  | true => rfl
  | false =>
      simp only [Bool.false_eq_true, if_false, List.nil_append, body]
      unfold splitSign
      split
      next _ same =>
          cases same
          exact absurd isDigit (by decide)
      next => rfl

theorem wholeAllowed_body {written : WrittenNumeral} (proper : written.IsProper) :
    wholeAllowed written.body = true := by
  have taken : written.body.takeWhile Char.isDigit = written.whole :=
    proper.whole.takeWhile_append (head?_afterWhole_not_isDigit _ _)
  unfold wholeAllowed
  rw [taken]
  split
  next none => exact absurd none proper.given
  next second rest zero => exact absurd zero (proper.noZero second rest)
  next => rfl

theorem pointAllowed_body {written : WrittenNumeral} (proper : written.IsProper) :
    pointAllowed written.body = true := by
  have dropped : written.body.dropWhile Char.isDigit =
      fractionText written.fraction ++ powerText written.power :=
    proper.whole.dropWhile_append (head?_afterWhole_not_isDigit _ _)
  have fractionDigits := proper.fraction
  unfold pointAllowed
  rw [dropped]
  cases fraction : written.fraction with
  | nil => cases written.power <;> rfl
  | cons digit digits =>
      rw [fraction, AllDigits.cons_iff] at fractionDigits
      exact fractionDigits.1

theorem numeral?_text {written : WrittenNumeral} (proper : written.IsProper) :
    numeral? written.text = some written.numeral := by
  rw [numeral?_eq, splitSign_text proper, wholeAllowed_body proper, pointAllowed_body proper]
  exact readUnsigned?_body proper

end WrittenNumeral

/-! ## Going through a numeral -/

/-- Whether a numeral, its characters latest first, goes on with all the characters of a text. -/
def extendsBy (earlier : List Char) : List Char → Bool
  | [] => true
  | head :: tail => extendsNumber earlier head && extendsBy (head :: earlier) tail

theorem extendsBy_append (earlier first second : List Char) :
    extendsBy earlier (first ++ second) =
      (extendsBy earlier first && extendsBy (first.reverse ++ earlier) second) := by
  induction first generalizing earlier with
  | nil => rfl
  | cons head tail induction =>
      simp only [List.cons_append, extendsBy, induction, Bool.and_assoc, List.reverse_cons,
        List.append_assoc, List.nil_append]

theorem extendsBy_of_allDigits (earlier : List Char) {text : List Char} (all : AllDigits text) :
    extendsBy earlier text = true := by
  induction text generalizing earlier with
  | nil => rfl
  | cons head tail induction =>
      rw [AllDigits.cons_iff] at all
      simp only [extendsBy, extendsNumber, all.1, if_true, Bool.true_and]
      exact induction _ all.2

namespace WrittenNumeral

/-- A numeral goes on from its first digit to its end. -/
theorem extendsBy_body {written : WrittenNumeral} (proper : written.IsProper)
    {mark : List Char} (marked : mark = [] ∨ mark = ['-']) :
    extendsBy mark written.body = true := by
  rcases written with ⟨negative, whole, fraction, power⟩
  rcases proper with ⟨all, given, -, fractionDigits, powerDigits⟩
  dsimp only at all given fractionDigits powerDigits
  have marks : ∀ character ∈ mark, character = '-' := by
    rcases marked with rfl | rfl <;> simp
  have noPower : ∀ {character : Char}, character.isDigit = true →
      character ≠ 'e' ∧ character ≠ 'E' := by
    rintro character isDigit
    constructor <;> rintro rfl <;> exact absurd isDigit (by decide)
  simp only [body, extendsBy_append, extendsBy_of_allDigits _ all, Bool.true_and, Bool.and_eq_true]
  constructor
  · unfold fractionText
    split
    · rfl
    · simp only [extendsBy, extendsBy_of_allDigits _ fractionDigits, Bool.and_true]
      change (whole.reverse ++ mark).all _ = true
      simp only [List.all_append, List.all_reverse, Bool.and_eq_true, List.all_eq_true]
      exact ⟨fun character member => by rw [all character member, Bool.true_or],
        fun character member => by rw [marks character member]; rfl⟩
  · cases power with
    | none => rfl
    | some power =>
        rcases power with ⟨negativePower, digits⟩
        have digitsAll := (powerDigits negativePower digits rfl).1
        have sign : ∀ earlier, extendsNumber ('e' :: earlier)
            (if negativePower then '-' else '+') = true := by
          intro earlier
          cases negativePower <;> rfl
        simp only [powerText, extendsBy, sign, extendsBy_of_allDigits _ digitsAll, Bool.and_true]
        change ((fractionText fraction).reverse ++ (whole.reverse ++ mark)).all _ = true
        simp only [List.all_append, List.all_reverse, Bool.and_eq_true, List.all_eq_true]
        refine ⟨?_, fun character member => ?_, fun character member => ?_⟩
        · unfold fractionText
          split
          · simp
          · rintro character member
            rcases List.mem_cons.mp member with rfl | member
            · decide
            · have noMark := noPower (fractionDigits character member)
              simp [noMark]
        · have noMark := noPower (all character member)
          simp [noMark]
        · rw [marks character member]
          decide

/-- A numeral begins with a sign or a digit and goes on to its end. -/
theorem exists_text {written : WrittenNumeral} (proper : written.IsProper) :
    ∃ head tail, written.text = head :: tail ∧ (head = '-' ∨ head.isDigit = true) ∧
      extendsBy [head] tail = true := by
  cases sign : written.negative with
  | true =>
      exact ⟨'-', written.body, by simp [text, sign], .inl rfl, extendsBy_body proper (.inr rfl)⟩
  | false =>
      obtain ⟨digit, rest, body, isDigit⟩ := head?_body proper
      have goesOn := extendsBy_body proper (.inl rfl)
      rw [body, extendsBy, Bool.and_eq_true] at goesOn
      exact ⟨digit, rest, by simp [text, sign, body], .inr isDigit, goesOn.2⟩

end WrittenNumeral

/-! ## Integers -/

theorem isProper_toDigits (negative : Bool) (magnitude : Nat) :
    (WrittenNumeral.mk negative (Nat.toDigits 10 magnitude) [] none).IsProper where
  whole := .toDigits magnitude
  given := Nat.toDigits_ne_nil
  noZero := by
    intro second rest same
    dsimp only at same
    rcases Nat.eq_zero_or_pos magnitude with rfl | positive
    · cases same
    · exact head_toDigits_ne_zero positive (by rw [same]; rfl)
  fraction := .nil
  power := by simp

/-- The numeral of an integer. -/
def WrittenNumeral.ofInt (value : Int) : WrittenNumeral :=
  { negative := value < 0, whole := Nat.toDigits 10 value.natAbs, fraction := [], power := none }

theorem WrittenNumeral.text_ofInt (value : Int) :
    (ofInt value).text = writeInt value := by
  have body : (ofInt value).body = Nat.toDigits 10 value.natAbs := by
    simp [ofInt, WrittenNumeral.body, WrittenNumeral.fractionText, WrittenNumeral.powerText]
  unfold WrittenNumeral.text writeInt
  rw [body]
  by_cases negative : value < 0 <;> simp [ofInt, negative]

/-- An integer of 64 bits is read back. -/
theorem number?_writeInt {value : Int} (least : Word.least ≤ value) (short : value < UInt64.size) :
    number? (writeInt value) = some (.integer value) := by
  have all := AllDigits.toDigits value.natAbs
  have digits : Nat.ofDigitChars 10 (Nat.toDigits 10 value.natAbs) 0 = value.natAbs :=
    Nat.ofDigitChars_ten_toDigits
  have read := WrittenNumeral.numeral?_text (isProper_toDigits (decide (value < 0)) value.natAbs)
  change numeral? (WrittenNumeral.ofInt value).text = _ at read
  rw [WrittenNumeral.text_ofInt] at read
  have whole : (writeInt value).all (fun character => character.isDigit || character == '-') =
      true := by
    unfold writeInt
    have digitsWhole : (Nat.toDigits 10 value.natAbs).all
        (fun character => character.isDigit || character == '-') = true :=
      List.all_eq_true.mpr (fun character member => by rw [all character member, Bool.true_or])
    split
    · simpa using digitsWhole
    · exact digitsWhole
  unfold number?
  rw [read, Option.bind_some]
  simp only [WrittenNumeral.numeral, gathered_eq all, digits, whole]
  by_cases negative : value < 0
  · have back : -(Int.ofNat value.natAbs) = value := by
      change -(value.natAbs : Int) = value
      omega
    have notZero : (Int.ofNat value.natAbs == 0) = false := by
      rw [beq_eq_false_iff_ne]
      omega
    simp only [negative, decide_true, if_true, back, notZero, Bool.and_false, Bool.not_false,
      Bool.and_true, least, short]
  · have back : Int.ofNat value.natAbs = value := by
      change (value.natAbs : Int) = value
      omega
    simp only [negative, decide_false, Bool.false_eq_true, if_false, Bool.false_and, back,
      Bool.not_false, Bool.and_true, least, short, decide_true, if_true]

/-! ## Finite doubles -/

theorem gatherDigits_eq {text : List Char} (all : AllDigits text) {significand : Nat}
    (fits : Nat.ofDigitChars 10 text significand < UInt64.size) :
    gatherDigits significand text = (Nat.ofDigitChars 10 text significand, []) := by
  induction text generalizing significand with
  | nil => rfl
  | cons head tail induction =>
      rw [AllDigits.cons_iff] at all
      rw [Nat.ofDigitChars_cons, Nat.mul_comm] at fits ⊢
      have small := Nat.lt_of_le_of_lt (le_ofDigitChars tail _) fits
      rw [gatherDigits, digit?_of_isDigit all.1]
      exact (if_pos small).trans (induction all.2 fits)

theorem scaleByTen_isSome_of_neg (value : Float) {exponent : Int} (negative : exponent < 0) :
    (scaleByTen value exponent).isSome = true := by
  fun_induction scaleByTen value exponent with
  | case1 => rfl
  | case2 => omega
  | case3 => omega
  | case4 => omega
  | case5 => rfl
  | case6 value exponent _ _ _ far induction => exact induction (by omega)

theorem scaleByTen_isSome_of_isFinite {value : Float} (exponent : Nat) (possible : exponent < 309)
    (finite : (value * Float.ofScientific 1 false exponent).isFinite = true) :
    (scaleByTen value exponent).isSome = true := by
  unfold scaleByTen
  split
  · rfl
  · rw [if_neg (by omega), if_pos (by omega)]
    dsimp only
    rw [Int.toNat_natCast, if_pos finite]
    rfl

/-- A numeral that stands for no integer and whose double is finite. -/
structure WrittenNumeral.ReadsFinite (written : WrittenNumeral) : Prop where
  proper : written.IsProper
  notWhole : ∃ character ∈ written.text, character.isDigit = false ∧ character ≠ '-'
  short : Nat.ofDigitChars 10 (written.whole ++ written.fraction) 0 < UInt64.size
  scaled : (scaleByTen (Float.ofNat (Nat.ofDigitChars 10 (written.whole ++ written.fraction) 0))
    (powerValue written.power - written.fraction.length)).isSome = true

theorem WrittenNumeral.ReadsFinite.number?_text {written : WrittenNumeral}
    (reads : written.ReadsFinite) :
    ∃ double, number? written.text = some (.double double) := by
  obtain ⟨character, member, noDigit, noSign⟩ := reads.notWhole
  have notWhole : written.text.all (fun character => character.isDigit || character == '-') =
      false := by
    rw [List.all_eq_false]
    exact ⟨character, member, by simp [noDigit, noSign]⟩
  have digits := reads.short
  rw [Nat.ofDigitChars_append] at digits
  have whole := gatherDigits_eq reads.proper.whole
    (Nat.lt_of_le_of_lt (le_ofDigitChars written.fraction _) digits)
  have fraction := gatherDigits_eq reads.proper.fraction digits
  have scaled := reads.scaled
  rw [Nat.ofDigitChars_append] at scaled
  obtain ⟨magnitude, magnitudeIs⟩ := Option.isSome_iff_exists.mp scaled
  have float : numeralFloat? written.numeral =
      some (if written.negative then -magnitude else magnitude) := by
    simp only [numeralFloat?, WrittenNumeral.numeral, whole, fraction, List.length_nil,
      Nat.sub_zero, Nat.cast_zero, add_zero, magnitudeIs, Option.map_some]
    rfl
  refine ⟨if written.negative then -magnitude else magnitude, ?_⟩
  unfold number?
  rw [WrittenNumeral.numeral?_text reads.proper, Option.bind_some]
  simp only [notWhole, Bool.false_and, Bool.false_eq_true, if_false, float, Option.map_some]

theorem ofDigitChars_zeros (digits : List Char) (count : Nat) :
    Nat.ofDigitChars 10 (List.replicate count '0' ++ digits) 0 = Nat.ofDigitChars 10 digits 0 := by
  rw [Nat.ofDigitChars_append, Nat.ofDigitChars_replicate_zero, Nat.mul_zero]

theorem word_size : 10 ^ 17 < UInt64.size := by
  decide

/-- A numeral with digits after a point and no exponent reads as a finite double, for it is scaled
down. -/
theorem readsFinite_of_point (negative : Bool) (whole fraction : List Char)
    (wholeDigits : AllDigits whole) (given : whole ≠ [])
    (noZero : ∀ second rest, whole ≠ '0' :: second :: rest) (fractionDigits : AllDigits fraction)
    (pointed : fraction ≠ []) (few : Nat.ofDigitChars 10 (whole ++ fraction) 0 < 10 ^ 17) :
    ∃ written : WrittenNumeral, written.ReadsFinite ∧
      written.text = (if negative then ['-'] else []) ++ (whole ++ '.' :: fraction) := by
  have some : fraction.isEmpty = false := List.isEmpty_eq_false_iff.mpr pointed
  have written : (WrittenNumeral.mk negative whole fraction none).text =
      (if negative then ['-'] else []) ++ (whole ++ '.' :: fraction) := by
    simp [WrittenNumeral.text, WrittenNumeral.body, WrittenNumeral.fractionText,
      WrittenNumeral.powerText, some]
  refine ⟨⟨negative, whole, fraction, none⟩, ⟨⟨wholeDigits, given, noZero, fractionDigits,
    by simp⟩, ⟨'.', ?_, by decide, by decide⟩, Nat.lt_trans few word_size, ?_⟩, written⟩
  · rw [written]
    simp
  · have length := List.length_pos_iff.mpr pointed
    refine scaleByTen_isSome_of_neg _ ?_
    simp only [WrittenNumeral.powerValue]
    omega

/-- Digits written positionally read as a finite double. -/
theorem exists_positional {digits : Digits} (proper : digits.IsProper)
    (few : digits.significand < 10 ^ 17) (high : digits.point ≤ 16) (negative : Bool) :
    ∃ written : WrittenNumeral, written.ReadsFinite ∧
      written.text = (if negative then ['-'] else []) ++ digits.positional true := by
  have zerosDigits := AllDigits.replicate_zero
  have given := List.length_pos_iff.mpr proper.given
  rw [Digits.positional]
  by_cases low : digits.point ≤ 0
  · rw [if_pos low]
    refine readsFinite_of_point negative ['0'] _ (by simp) (by simp) (by simp)
      (AllDigits.append_iff.mpr ⟨zerosDigits _, proper.all⟩) (by simp [proper.given]) ?_
    have value := ofDigitChars_zeros digits.digits ((-digits.point).toNat + 1)
    rw [List.replicate_succ] at value
    rw [← Digits.significand] at value
    exact Nat.lt_of_le_of_lt (Nat.le_of_eq value) few
  · rw [if_neg low]
    by_cases whole : digits.digits.length ≤ digits.point.toNat
    · rw [if_pos whole, if_pos rfl]
      have all : AllDigits (digits.digits ++ zeros (digits.point.toNat - digits.digits.length)) :=
        AllDigits.append_iff.mpr ⟨proper.all, zerosDigits _⟩
      refine readsFinite_of_point negative _ ['0'] all (by simp [proper.given]) ?_ (by simp)
        (by simp) ?_
      · intro second rest zero
        obtain ⟨head, tail, parts⟩ := List.exists_cons_of_ne_nil proper.given
        rw [parts, List.cons_append] at zero
        exact proper.noZero (parts.trans (congrArg (· :: tail) (List.cons.inj zero).1))
      · refine Nat.lt_of_lt_of_le (ofDigitChars_lt (AllDigits.append_iff.mpr ⟨all, by simp⟩))
          (Nat.pow_le_pow_right (by decide) ?_)
        simp only [List.length_append, zeros, List.length_replicate, List.length_cons,
          List.length_nil]
        omega
    · rw [if_neg whole]
      have split := List.take_append_drop digits.point.toNat digits.digits
      have all := proper.all
      rw [← split, AllDigits.append_iff] at all
      refine readsFinite_of_point negative _ _ all.1 ?_ ?_ all.2 ?_ (by rw [split]; exact few)
      · apply List.ne_nil_of_length_pos
        rw [List.length_take]
        omega
      · intro second rest zero
        rw [zero, List.cons_append] at split
        exact proper.noZero split.symm
      · apply List.ne_nil_of_length_pos
        rw [List.length_drop]
        omega

/-- Digits written with an exponent read as a finite double when what they stand for is not too
large. -/
theorem exists_scientific {digits : Digits} (proper : digits.IsProper)
    (few : digits.significand < 10 ^ 17)
    (scaled : (scaleByTen (Float.ofNat digits.significand)
      (digits.point - digits.digits.length)).isSome = true) (negative : Bool) :
    ∃ written : WrittenNumeral, written.ReadsFinite ∧
      written.text = (if negative then ['-'] else []) ++ digits.scientific := by
  rcases digits with ⟨characters, point⟩
  cases characters with
  | nil => exact absurd rfl proper.given
  | cons first rest =>
      have all := AllDigits.cons_iff.mp proper.all
      have power := AllDigits.toDigits (point - 1).natAbs
      have digits : Nat.ofDigitChars 10 (Nat.toDigits 10 (point - 1).natAbs) 0 =
          (point - 1).natAbs := Nat.ofDigitChars_ten_toDigits
      have exponent : WrittenNumeral.powerValue
          (some (decide (point - 1 < 0), Nat.toDigits 10 (point - 1).natAbs)) = point - 1 := by
        simp only [WrittenNumeral.powerValue, digits]
        split
        next below =>
            have below := of_decide_eq_true below
            omega
        next notBelow =>
            have notBelow := of_decide_eq_false (Bool.eq_false_of_not_eq_true notBelow)
            omega
      have written : (WrittenNumeral.mk negative [first] rest
          (some (decide (point - 1 < 0), Nat.toDigits 10 (point - 1).natAbs))).text =
          (if negative then ['-'] else []) ++ Digits.scientific ⟨first :: rest, point⟩ := by
        cases rest <;>
          simp [WrittenNumeral.text, WrittenNumeral.body, WrittenNumeral.fractionText,
            WrittenNumeral.powerText, Digits.scientific]
      refine ⟨_, ⟨⟨?_, ?_, ?_, ?_, ?_⟩, ⟨'e', ?_, by decide, by decide⟩, ?_, ?_⟩, written⟩
      · simpa using all.1
      · simp
      · simp
      · exact all.2
      · intro negative digits same
        cases same
        exact ⟨power, Nat.toDigits_ne_nil⟩
      · rw [written]
        simp [Digits.scientific]
      · exact Nat.lt_trans few word_size
      · dsimp only
        rw [exponent]
        have length : point - 1 - (rest.length : Int) = point - ((first :: rest).length : Int) := by
          rw [List.length_cons]
          omega
        rw [length]
        exact scaled

theorem inStyle_json (digits : Digits) :
    digits.inStyle .json =
      if -4 ≤ digits.point ∧ digits.point ≤ 16 then digits.positional true
      else digits.scientific := by
  simp [Digits.inStyle, Style.json]

theorem shortest_greatestInterval :
    shortest greatestInterval = ⟨"17976931348623157".toList, 309⟩ := by
  decide +kernel

/-- The digits of a finite double that are written with an exponent stand for a double. -/
theorem scaleByTen_shortest_isSome {interval : Interval} (wide : interval.IsWide)
    (limited : interval.EndsLow ∨ interval = greatestInterval) :
    (scaleByTen (Float.ofNat (shortest interval).significand)
      ((shortest interval).point - (shortest interval).digits.length)).isSome = true := by
  obtain ⟨count, unit, stands⟩ := shortest_standsFor wide
  rcases Int.lt_or_le (shortest interval).point (shortest interval).digits.length with
    small | whole
  · exact scaleByTen_isSome_of_neg _ (by omega)
  · obtain ⟨places, placesAre⟩ := Int.eq_ofNat_of_zero_le (Int.sub_nonneg_of_le whole)
    rcases limited with low | rfl
    · have value := stands.le_secondEnd wide low whole
      have positive : 0 < (shortest interval).significand := by
        obtain ⟨zeros, count_eq, -⟩ := Digits.significand_ofGridPoint count unit
        rw [← stands.written] at count_eq
        exact Nat.pos_of_mul_pos_right (by rw [count_eq]; exact stands.positive)
      rw [placesAre, Int.toNat_natCast] at value
      rw [placesAre]
      have possible := Float.exponent_lt_of_le_secondEnd positive value
      exact scaleByTen_isSome_of_isFinite places possible
        (Float.isFinite_mul_power positive stands.significand_lt value)
    · rw [shortest_greatestInterval]
      exact scaleByTen_isSome_of_isFinite 292 (by decide) (by decide +kernel)

/-- A finite double is written as a numeral that reads as a finite double. -/
theorem exists_writeFloat {number : Float} (finite : number.isFinite = true) :
    ∃ written : WrittenNumeral, written.ReadsFinite ∧ written.text = writeFloat .json number := by
  unfold writeFloat
  rcases Magnitude.of_isFinite finite with zero | ⟨interval, positive, wide, limited⟩
  · rw [zero]
    exact readsFinite_of_point (isNegative number) ['0'] ['0']
      (by simp) (by simp) (by simp) (by simp) (by simp) (by decide)
  · rw [positive]
    obtain ⟨count, unit, stands⟩ := shortest_standsFor wide
    have proper := Digits.isProper_ofGridPoint stands.positive unit
    rw [← stands.written] at proper
    dsimp only
    by_cases placed : (-4 : Int) ≤ (shortest interval).point ∧ (shortest interval).point ≤ 16
    · rw [inStyle_json, if_pos placed]
      exact exists_positional proper stands.significand_lt placed.2 (isNegative number)
    · rw [inStyle_json, if_neg placed]
      exact exists_scientific proper stands.significand_lt
        (scaleByTen_shortest_isSome wide limited) (isNegative number)

end Json

end CandleAlerts
