import CandleAlerts.Proofs.EventIds
import CandleAlerts.Proofs.SignatureTexts
import Mathlib.Data.List.Induction

/-!
Which signature headers are accepted.

What a header says is defined on its text alone: the text is parted at its commas, and of the parts
with one key the last counts. A check succeeds exactly when the timestamp said is a signed word
within the age allowed and the signature said is hexadecimal text of the tag of the message signed.
The message keeps timestamp and body apart, so a tag stands for one of each.
-/

namespace CandleAlerts

namespace Text

/-! ## Parting texts -/

/-- A text is its parts with a separator between neighbours, and no part holds one. -/
structure IsParting (separator : Char) (text : List Char) (parts : List (List Char)) : Prop where
  nonempty : parts ≠ []
  joined : [separator].intercalate parts = text
  apart : ∀ part ∈ parts, separator ∉ part

theorem isParting_splitAtEach (separator : Char) (text : List Char) :
    IsParting separator text (splitAtEach separator text) := by
  induction text with
  | nil => exact ⟨by simp [splitAtEach], rfl, by simp [splitAtEach]⟩
  | cons head tail induction =>
      obtain ⟨nonempty, joined, apart⟩ := induction
      rw [splitAtEach]
      split
      · rename_i same
        obtain ⟨first, rest, parts⟩ := List.exists_cons_of_ne_nil nonempty
        rw [parts] at joined apart ⊢
        refine ⟨by simp, ?_, ?_⟩
        · rw [List.intercalate_cons_cons, joined, same]
          rfl
        · simpa using apart
      · rename_i different
        obtain ⟨first, rest, parts⟩ := List.exists_cons_of_ne_nil nonempty
        rw [parts] at joined apart ⊢
        refine ⟨by simp, ?_, ?_⟩
        · cases rest with
          | nil => simpa using joined
          | cons second others =>
              rw [List.intercalate_cons_cons] at joined ⊢
              rw [← joined]
              rfl
        · rw [List.forall_mem_cons] at apart ⊢
          refine ⟨?_, apart.2⟩
          rw [List.mem_cons, not_or]
          exact ⟨Ne.symm different, apart.1⟩

/-- A text has one parting. -/
theorem IsParting.eq_splitAtEach {separator : Char} {text : List Char} {parts : List (List Char)}
    (parting : IsParting separator text parts) : parts = splitAtEach separator text := by
  obtain ⟨nonempty, rfl, apart⟩ := parting
  induction parts with
  | nil => exact absurd rfl nonempty
  | cons first rest induction =>
      rw [List.forall_mem_cons] at apart
      cases rest with
      | nil => rw [List.intercalate_singleton, splitAtEach_of_not_mem apart.1]
      | cons second others =>
          rw [List.intercalate_cons_cons, List.append_assoc, List.singleton_append,
            splitAtEach_append apart.1, ← induction (by simp) apart.2]

theorem splitAtFirst?_singleton_iff {separator key : Char} (different : key ≠ separator)
    (text value : List Char) :
    splitAtFirst? separator text = some ([key], value) ↔ text = key :: separator :: value := by
  constructor
  · intro split
    match text with
    | [] => cases split
    | [only] =>
        simp only [splitAtFirst?] at split
        split at split <;> simp at split
    | first :: second :: rest =>
        simp only [splitAtFirst?] at split
        split at split
        · simp at split
        · split at split
          · rename_i isSeparator
            simp only [Option.map_some, Option.some.injEq, Prod.mk.injEq, List.cons.injEq] at split
            rw [split.1.1, isSeparator, split.2]
          · simp at split
  · rintro rfl
    simp [splitAtFirst?, different]

theorem splitAtFirst?_append {separator : Char} {first : List Char} (absent : separator ∉ first)
    (rest : List Char) :
    splitAtFirst? separator (first ++ separator :: rest) = some (first, rest) := by
  induction first with
  | nil => simp [splitAtFirst?]
  | cons head tail induction =>
      rw [List.mem_cons, not_or] at absent
      rw [List.cons_append, splitAtFirst?, if_neg (Ne.symm absent.1), induction absent.2]
      rfl

/-! ## Hexadecimal text -/

theorem hexValue?_ofNat : ∀ code < 128,
    (∀ value < 16, hexValue? (Char.ofNat code) = some value ↔
      (Char.ofNat code).toLower = hexDigit value) ∧
    ∀ value ∈ hexValue? (Char.ofNat code), value < 16 := by
  decide

theorem toNat_hexDigit_lt : ∀ value < 16, (hexDigit value).toNat < 128 := by
  decide

/-- A digit in either letter case has the value of the lower case digit. -/
theorem hexValue?_eq_some_iff (character : Char) (value : Nat) :
    hexValue? character = some value ↔ value < 16 ∧ character.toLower = hexDigit value := by
  by_cases ascii : character.toNat < 128
  · obtain ⟨digits, small⟩ := hexValue?_ofNat character.toNat ascii
    rw [Char.ofNat_toNat] at digits small
    constructor
    · intro read
      exact ⟨small value read, (digits value (small value read)).1 read⟩
    · rintro ⟨within, lower⟩
      exact (digits value within).2 lower
  · -- beyond ASCII there is no digit, and no letter that has a lower case
    have beyond : 128 ≤ character.toNat := Nat.le_of_not_lt ascii
    have noDigit : character.isDigit ≠ true := fun isDigit => by
      have range := Decimal.toNat_of_isDigit isDigit
      omega
    have noLetter : ∀ first last : Char, last.toNat < 128 →
        ¬ (first ≤ character ∧ character ≤ last) := by
      intro first last within range
      have atMost : character.toNat ≤ last.toNat := UInt32.le_iff_toNat_le.1 (Char.le_def.1 range.2)
      omega
    have noValue : hexValue? character = none := by
      rw [hexValue?, if_neg noDigit, if_neg (noLetter _ _ (by decide)),
        if_neg (noLetter _ _ (by decide))]
    have lower : character.toLower = character := by
      refine dif_neg ?_
      simp [UInt32.le_iff_toNat_le]
      omega
    rw [noValue, lower]
    constructor
    · intro read
      cases read
    · rintro ⟨within, rfl⟩
      exact absurd (toNat_hexDigit_lt value within) ascii

theorem hexOfBytes_cons (byte : UInt8) (rest : List UInt8) :
    hexOfBytes (byte :: rest) =
      hexDigit (byte.toNat / 16) :: hexDigit (byte.toNat % 16) :: hexOfBytes rest := rfl

/-- Hexadecimal text of bytes is their own text, in either letter case. -/
theorem bytesOfHex?_eq_some_iff (text : List Char) (bytes : List UInt8) :
    bytesOfHex? text = some bytes ↔ text.map Char.toLower = hexOfBytes bytes := by
  fun_induction bytesOfHex? text generalizing bytes with
  | case1 => cases bytes <;> simp [hexOfBytes]
  | case2 only => cases bytes <;> simp [hexOfBytes]
  | case3 high low rest induction =>
      constructor
      · intro read
        simp only [Option.bind_eq_bind, Option.bind_eq_some_iff, Option.pure_def,
          Option.some.injEq] at read
        obtain ⟨first, firstRead, second, secondRead, others, othersRead, rfl⟩ := read
        obtain ⟨firstSmall, firstLower⟩ := (hexValue?_eq_some_iff high first).1 firstRead
        obtain ⟨secondSmall, secondLower⟩ := (hexValue?_eq_some_iff low second).1 secondRead
        have value : (UInt8.ofNat (first * 16 + second)).toNat = first * 16 + second := by
          rw [UInt8.toNat_ofNat']
          omega
        have upper : (first * 16 + second) / 16 = first := by omega
        have lower : (first * 16 + second) % 16 = second := by omega
        rw [hexOfBytes_cons, value, upper, lower, List.map_cons, List.map_cons, firstLower,
          secondLower, (induction others).1 othersRead]
      · intro same
        cases bytes with
        | nil => cases same
        | cons byte others =>
            have small : byte.toNat < 256 := byte.toNat_lt
            rw [hexOfBytes_cons, List.map_cons, List.map_cons, List.cons.injEq,
              List.cons.injEq] at same
            have highRead := (hexValue?_eq_some_iff high (byte.toNat / 16)).2 ⟨by omega, same.1⟩
            have lowRead := (hexValue?_eq_some_iff low (byte.toNat % 16)).2 ⟨by omega, same.2.1⟩
            have whole : byte.toNat / 16 * 16 + byte.toNat % 16 = byte.toNat :=
              Nat.div_add_mod' _ _
            simp only [highRead, lowRead, (induction others).2 same.2.2, whole, UInt8.ofNat_toNat,
              Option.bind_eq_bind, Option.bind_some, Option.pure_def]

end Text

namespace Decimal

/-! ## Integers -/

/-- How an integer may be written: in digits, with a sign or without. -/
inductive WritesInteger : List Char → Int → Prop
  | unsigned {digits : List Char} (all : AllDigits digits) (given : digits ≠ []) :
      WritesInteger digits (Nat.ofDigitChars 10 digits 0 : Nat)
  | plus {digits : List Char} (all : AllDigits digits) (given : digits ≠ []) :
      WritesInteger ('+' :: digits) (Nat.ofDigitChars 10 digits 0 : Nat)
  | minus {digits : List Char} (all : AllDigits digits) (given : digits ≠ []) :
      WritesInteger ('-' :: digits) (-(Nat.ofDigitChars 10 digits 0 : Nat))

theorem of_map_readDigits_eq_ok {greatest : Nat} {past : IntegerFault} {text : List Char}
    {signed : Nat → Int} {number : Int}
    (read : (readDigits greatest past 0 text).map signed = .ok number) :
    AllDigits text ∧ number = signed (Nat.ofDigitChars 10 text 0) ∧
      Nat.ofDigitChars 10 text 0 ≤ greatest := by
  cases magnitude : readDigits greatest past 0 text with
  | error fault =>
      rw [magnitude] at read
      cases read
  | ok value =>
      obtain ⟨all, rfl, bound⟩ := of_readDigits_eq_ok (Nat.zero_le _) magnitude
      rw [magnitude] at read
      cases read
      exact ⟨all, rfl, bound⟩

/-- A signed word is read from every way to write it, and from nothing else. -/
theorem readInt64_eq_ok_iff (text : List Char) (number : Int) :
    readInt64 text = .ok number ↔ WritesInteger text number ∧ Word.Holds number := by
  have greatest : (Word.greatest.toNat : Int) = Word.greatest := rfl
  have least : (Word.least.natAbs : Int) = -Word.least := rfl
  constructor
  · intro read
    unfold readInt64 at read
    split at read
    · cases read
    · cases read
    · cases read
    · rename_i digits given
      obtain ⟨all, rfl, bound⟩ := of_map_readDigits_eq_ok read
      refine ⟨.plus all (fun empty => given empty), ?_⟩
      rw [Int.ofNat_eq_natCast]
      unfold Word.Holds
      omega
    · rename_i digits given
      obtain ⟨all, rfl, bound⟩ := of_map_readDigits_eq_ok read
      refine ⟨.minus all (fun empty => given empty), ?_⟩
      rw [Int.ofNat_eq_natCast]
      unfold Word.Holds
      omega
    · rename_i given _ _ _ _
      obtain ⟨all, rfl, bound⟩ := of_map_readDigits_eq_ok read
      refine ⟨.unsigned all (fun empty => given empty), ?_⟩
      rw [Int.ofNat_eq_natCast]
      unfold Word.Holds
      omega
  · rintro ⟨writes, holds⟩
    unfold Word.Holds at holds
    cases writes with
    | unsigned all given => exact readInt64_of_digits all given (by omega)
    | @plus digits all given =>
        have read := readDigits_eq_ok .tooLarge all
          (show Nat.ofDigitChars 10 digits 0 ≤ Word.greatest.toNat by omega)
        cases digits with
        | nil => exact absurd rfl given
        | cons head tail =>
            change (readDigits Word.greatest.toNat .tooLarge 0 (head :: tail)).map _ = _
            rw [read]
            rfl
    | minus all given => exact readInt64_of_minus all given (by omega)

end Decimal

namespace Webhook

namespace SignatureHeader

/-! ## What a header says -/

/-- A part of a header gives a value for a key: without the blanks at its ends it is the key, an
equals sign and the value. -/
def Gives (part : List Char) (key : Char) (value : List Char) : Prop :=
  Text.trimBlanks part = key :: '=' :: value

/-- The last of the parts that give a value for a key gives this one. -/
def LastGives (parts : List (List Char)) (key : Char) (value : List Char) : Prop :=
  ∃ before part after, parts = before ++ part :: after ∧ Gives part key value ∧
    ∀ later ∈ after, ∀ other, ¬ Gives later key other

/-- What the parts of a header say: the last with the key `t` writes the timestamp, which is a signed
word, and the last with the key `s` is the signature, which is not empty. -/
structure SaidBy (header : SignatureHeader) (parts : List (List Char)) : Prop where
  timestamp : ∃ value, LastGives parts 't' value ∧ Decimal.WritesInteger value header.timestamp
  holds : Word.Holds header.timestamp
  signature : LastGives parts 's' header.signature.toList
  given : header.signature ≠ ""

/-- What the text of a header says is what its parts between the commas say. -/
def SaidIn (header : SignatureHeader) (text : String) : Prop :=
  ∃ parts, Text.IsParting ',' text.toList parts ∧ header.SaidBy parts

theorem Gives.unique {part : List Char} {key other : Char} {value otherValue : List Char}
    (gives : Gives part key value) (alsoGives : Gives part other otherValue) :
    key = other ∧ value = otherValue := by
  have same := gives.symm.trans alsoGives
  simp only [List.cons.injEq, true_and] at same
  exact same

theorem lastGives_concat_iff (parts : List (List Char)) (last : List Char) (key : Char)
    (value : List Char) :
    LastGives (parts ++ [last]) key value ↔
      Gives last key value ∨ ((∀ other, ¬ Gives last key other) ∧ LastGives parts key value) := by
  constructor
  · rintro ⟨before, part, after, split, gives, silent⟩
    rcases List.eq_nil_or_concat after with rfl | ⟨between, final, rfl⟩
    · obtain ⟨-, rfl⟩ := List.append_singleton_inj.1 split
      exact .inl gives
    · rw [List.concat_eq_append, ← List.cons_append, ← List.append_assoc] at split
      obtain ⟨rfl, rfl⟩ := List.append_singleton_inj.1 split
      refine .inr ⟨silent last (by simp), before, part, between, rfl, gives, ?_⟩
      exact fun later member => silent later (by simp [member])
  · rintro (gives | ⟨lastSilent, before, part, after, rfl, gives, silent⟩)
    · exact ⟨parts, last, [], rfl, gives, by simp⟩
    · refine ⟨before, part, after ++ [last], by simp, gives, ?_⟩
      intro later member
      rcases List.mem_append.1 member with earlier | here
      · exact silent later earlier
      · exact List.mem_singleton.1 here ▸ lastSilent

/-! ## One part after the other -/

theorem Parts.take_of_timestamp (parts : Parts) {part value : List Char}
    (gives : Gives part 't' value) :
    parts.take part = { parts with timestamp := (Decimal.readInt64 value).toOption } := by
  rw [Parts.take, (Text.splitAtFirst?_singleton_iff (by decide) _ _).2 gives]
  rfl

theorem Parts.take_of_signature (parts : Parts) {part value : List Char}
    (gives : Gives part 's' value) :
    parts.take part = { parts with signature := some value } := by
  rw [Parts.take, (Text.splitAtFirst?_singleton_iff (by decide) _ _).2 gives]
  rfl

theorem Parts.take_of_neither (parts : Parts) {part : List Char}
    (noTimestamp : ∀ value, ¬ Gives part 't' value)
    (noSignature : ∀ value, ¬ Gives part 's' value) : parts.take part = parts := by
  unfold Parts.take
  split
  · rename_i value split
    exact absurd ((Text.splitAtFirst?_singleton_iff (by decide) _ _).1 split) (noTimestamp value)
  · rename_i value split
    exact absurd ((Text.splitAtFirst?_singleton_iff (by decide) _ _).1 split) (noSignature value)
  · rfl

theorem Parts.timestamp_take_iff (parts : Parts) (part : List Char) (timestamp : Int) :
    (parts.take part).timestamp = some timestamp ↔
      (∃ value, Gives part 't' value ∧ Decimal.readInt64 value = .ok timestamp) ∨
        ((∀ value, ¬ Gives part 't' value) ∧ parts.timestamp = some timestamp) := by
  by_cases gives : ∃ value, Gives part 't' value
  · obtain ⟨value, gives⟩ := gives
    have only : ∀ other, Gives part 't' other ↔ other = value := fun other =>
      ⟨fun alsoGives => (alsoGives.unique gives).2, fun same => same ▸ gives⟩
    rw [parts.take_of_timestamp gives]
    cases read : Decimal.readInt64 value <;> simp [only, read, Except.toOption]
  · have silent : ∀ value, ¬ Gives part 't' value := not_exists.1 gives
    by_cases signs : ∃ value, Gives part 's' value
    · obtain ⟨value, signs⟩ := signs
      simp [parts.take_of_signature signs, silent]
    · simp [parts.take_of_neither silent (not_exists.1 signs), silent]

theorem Parts.signature_take_iff (parts : Parts) (part signature : List Char) :
    (parts.take part).signature = some signature ↔
      Gives part 's' signature ∨
        ((∀ value, ¬ Gives part 's' value) ∧ parts.signature = some signature) := by
  by_cases gives : ∃ value, Gives part 's' value
  · obtain ⟨value, gives⟩ := gives
    have only : ∀ other, Gives part 's' other ↔ other = value := fun other =>
      ⟨fun alsoGives => (alsoGives.unique gives).2, fun same => same ▸ gives⟩
    simp [parts.take_of_signature gives, only, eq_comm]
  · have silent : ∀ value, ¬ Gives part 's' value := not_exists.1 gives
    by_cases timed : ∃ value, Gives part 't' value
    · obtain ⟨value, timed⟩ := timed
      simp [parts.take_of_timestamp timed, silent]
    · simp [parts.take_of_neither (not_exists.1 timed) silent, silent]

/-- The timestamp that the parts of a header have said is the one of the last part that gives one, if
that can be read. -/
theorem timestamp_foldl_take_iff (parts : List (List Char)) (timestamp : Int) :
    (parts.foldl Parts.take {}).timestamp = some timestamp ↔
      ∃ value, LastGives parts 't' value ∧ Decimal.readInt64 value = .ok timestamp := by
  induction parts using List.reverseRecOn with
  | nil => simp [LastGives]
  | append_singleton parts last induction =>
      rw [List.foldl_append, List.foldl_cons, List.foldl_nil, Parts.timestamp_take_iff, induction]
      simp only [lastGives_concat_iff, or_and_right, exists_or, and_assoc, exists_and_left]

theorem signature_foldl_take_iff (parts : List (List Char)) (signature : List Char) :
    (parts.foldl Parts.take {}).signature = some signature ↔ LastGives parts 's' signature := by
  induction parts using List.reverseRecOn with
  | nil => simp [LastGives]
  | append_singleton parts last induction =>
      rw [List.foldl_append, List.foldl_cons, List.foldl_nil, Parts.signature_take_iff, induction,
        lastGives_concat_iff]

theorem parse?_eq_some_iff_saidBy (text : String) (header : SignatureHeader) :
    parse? text = some header ↔ header.SaidBy (Text.splitAtEach ',' text.toList) := by
  simp only [parse?]
  constructor
  · intro read
    split at read
    · rename_i timestamp signature timestampSaid signatureSaid
      split at read
      · cases read
      · rename_i notEmpty
        cases read
        obtain ⟨value, last, valueRead⟩ := (timestamp_foldl_take_iff _ _).1 timestampSaid
        obtain ⟨writes, holds⟩ := (Decimal.readInt64_eq_ok_iff _ _).1 valueRead
        refine ⟨⟨value, last, writes⟩, holds, ?_, ?_⟩
        · rw [String.toList_ofList]
          exact (signature_foldl_take_iff _ _).1 signatureSaid
        · intro empty
          rw [String.ofList_eq_empty_iff.1 empty] at notEmpty
          exact notEmpty rfl
    · cases read
  · rintro ⟨⟨value, last, writes⟩, holds, signature, given⟩
    have timestampSaid := (timestamp_foldl_take_iff _ _).2
      ⟨value, last, (Decimal.readInt64_eq_ok_iff _ _).2 ⟨writes, holds⟩⟩
    have signatureSaid := (signature_foldl_take_iff _ _).2 signature
    have notEmpty : header.signature.toList.isEmpty = false := by
      rw [List.isEmpty_eq_false_iff]
      exact fun empty => given (String.toList_eq_nil_iff.1 empty)
    simp only [timestampSaid, signatureSaid, notEmpty, Bool.false_eq_true, if_false,
      String.ofList_toList]

/-- What is read from a text is what it says, and a text that says nothing is not read. -/
theorem parse?_eq_some_iff (text : String) (header : SignatureHeader) :
    parse? text = some header ↔ header.SaidIn text := by
  rw [parse?_eq_some_iff_saidBy]
  constructor
  · intro said
    exact ⟨_, Text.isParting_splitAtEach ',' text.toList, said⟩
  · rintro ⟨parts, parting, said⟩
    exact parting.eq_splitAtEach ▸ said

end SignatureHeader

/-! ## The check -/

theorem checkSignature_eq_ok_iff (mac : Mac) (secret body text : String) (maxAge : Nat)
    (now : Int) :
    checkSignature mac secret body text maxAge now = .ok () ↔
      ∃ header : SignatureHeader, header.SaidIn text ∧
        (now - header.timestamp).natAbs ≤ maxAge ∧
        header.signature.toList.map Char.toLower =
          Text.hexOfBytes (mac secret (signedMessage header.timestamp body)) := by
  simp only [← SignatureHeader.parse?_eq_some_iff, ← Text.bytesOfHex?_eq_some_iff]
  unfold checkSignature
  cases SignatureHeader.parse? text with
  | none => simp
  | some given =>
      simp only [Option.some.injEq, exists_eq_left']
      split
      · rename_i late
        simp [Nat.not_le_of_lt late]
      · rename_i fresh
        simp [Nat.le_of_not_lt fresh]

/-- A signed message has one timestamp and one body: the first point is the one between them. -/
theorem signedMessage_injective {first second : Int} {body other : String}
    (same : signedMessage first body = signedMessage second other) :
    first = second ∧ body = other := by
  have noPoint (timestamp : Int) : '.' ∉ Decimal.writeInt timestamp := by
    intro member
    rcases Decimal.mem_writeInt member with sign | isDigit
    · cases sign
    · exact absurd isDigit (by decide)
  have texts := congrArg (Text.splitAtFirst? '.' ·.toList) same
  simp only [signedMessage, String.toList_ofList, Text.splitAtFirst?_append (noPoint _),
    Option.some.injEq, Prod.mk.injEq] at texts
  exact ⟨Decimal.writeInt_injective texts.1, String.toList_injective texts.2⟩

/-- A check accepts a header exactly when the timestamp it says lies within the age allowed, before or
after, and the signature it says is hexadecimal text, in either letter case, of the whole tag of the
message signed. The header of a signature says that signature, and it is accepted as long as it is
fresh. A message is signed for one timestamp and one body. -/
theorem checkSignature_exact (mac : Mac) (tagged : ∀ key message, mac key message ≠ []) :
    (∀ (secret body text : String) (maxAge : Nat) (now : Int),
      checkSignature mac secret body text maxAge now = .ok () ↔
        ∃ header : SignatureHeader, header.SaidIn text ∧
          (now - header.timestamp).natAbs ≤ maxAge ∧
          header.signature.toList.map Char.toLower =
            Text.hexOfBytes (mac secret (signedMessage header.timestamp body))) ∧
    (∀ (secret body : String) (timestamp : Int), Word.Holds timestamp →
      SignatureHeader.parse? (signatureHeader mac secret timestamp body).text =
        some ⟨timestamp, sign mac secret timestamp body⟩ ∧
      ∀ (maxAge : Nat) (now : Int), (now - timestamp).natAbs ≤ maxAge →
        checkSignature mac secret body (signatureHeader mac secret timestamp body).text maxAge
          now = .ok ()) ∧
    (∀ (first second : Int) (body other : String),
      signedMessage first body = signedMessage second other → first = second ∧ body = other) := by
  refine ⟨checkSignature_eq_ok_iff mac, ?_, fun _ _ _ _ => signedMessage_injective⟩
  intro secret body timestamp holds
  refine ⟨SignatureHeader.parse?_text holds (tagged _ _), ?_⟩
  intro maxAge now fresh
  exact checkSignature_signatureHeader (tagged _ _) holds fresh

/-! A header that says a timestamp twice, the second time with a sign and a blank around it, and its
signature in upper case. -/

def upperCaseTag : String :=
  "D066254199A6F40D63F96C33C549959D7A371EF849D13D2A85811237089B2D00"

def repeatedHeader : String := "t=9,s=00, t=+5 ,s=" ++ upperCaseTag

theorem hmacSha256_ne_nil (key message : String) : Hash.hmacSha256 key message ≠ [] := by
  intro empty
  have length := Hash.length_hmacSha256 key message
  rw [empty] at length
  cases length

theorem repeatedHeader_says : (SignatureHeader.mk 5 upperCaseTag).SaidIn repeatedHeader := by
  have times : SignatureHeader.Gives " t=+5 ".toList 't' ['+', '5'] := by
    unfold SignatureHeader.Gives
    decide
  have writes : Decimal.WritesInteger ['+', '5'] (Nat.ofDigitChars 10 ['5'] 0 : Nat) :=
    .plus (by simp) (by simp)
  have signs : SignatureHeader.Gives ("s=" ++ upperCaseTag).toList 's' upperCaseTag.toList := by
    unfold SignatureHeader.Gives
    decide
  refine ⟨["t=9".toList, "s=00".toList, " t=+5 ".toList, ("s=" ++ upperCaseTag).toList],
    ⟨by simp, by decide, by decide⟩, ⟨_, ?_, writes⟩, by decide, ?_, by decide⟩
  · refine ⟨["t=9".toList, "s=00".toList], _, [("s=" ++ upperCaseTag).toList], rfl, times, ?_⟩
    intro later member value timesAgain
    obtain rfl := List.mem_singleton.1 member
    exact absurd (signs.unique timesAgain).1 (by decide)
  · exact ⟨["t=9".toList, "s=00".toList, " t=+5 ".toList], _, [], rfl, signs, nofun⟩

theorem repeatedHeader_accepted :
    (∀ key message, Hash.hmacSha256 key message ≠ []) ∧
    checkSignature Hash.hmacSha256 "k" "\x7b\x7d" repeatedHeader 300 305 = .ok () ∧
    Word.Holds Word.least ∧
    SignatureHeader.parse? (signatureHeader Hash.hmacSha256 "k" Word.least "").text =
      some ⟨Word.least, sign Hash.hmacSha256 "k" Word.least ""⟩ ∧
    checkSignature Hash.hmacSha256 "k" ""
      (signatureHeader Hash.hmacSha256 "k" Word.least "").text 1 (Word.least + 1) = .ok () ∧
    signedMessage 5 "a" ≠ signedMessage 5 "b" := by
  obtain ⟨accepted, said, apart⟩ := checkSignature_exact Hash.hmacSha256 hmacSha256_ne_nil
  have holds : Word.Holds Word.least := by decide
  obtain ⟨read, passes⟩ := said "k" "" Word.least holds
  refine ⟨hmacSha256_ne_nil, ?_, holds, read, passes 1 (Word.least + 1) (by decide), ?_⟩
  · exact (accepted _ _ _ _ _).2
      ⟨⟨5, upperCaseTag⟩, repeatedHeader_says, by decide, by decide +kernel⟩
  · exact fun same => absurd (apart _ _ _ _ same).2 (by decide)

end Webhook

end CandleAlerts
