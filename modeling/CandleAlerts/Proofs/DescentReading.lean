import CandleAlerts.Proofs.JsonTexts
import CandleAlerts.Proofs.NumberTexts

/-!
JSON text read by recursive descent.

This reader follows the grammar of JSON to any depth: blanks may stand between the parts, a string
may use every escape, and what a numeral stands for is left open. Compact text is read back to the
value that was written if each of its numbers is what its own numeral stands for.
-/

namespace CandleAlerts

/-- Whether a number is kept and is what a reading of numerals takes its own numeral for. -/
def Number.ReadExactly (numberOf : List Char → Option Number) (number : Number) : Prop :=
  number.Kept ∧ numberOf (Json.numberText number) = some number

namespace Json

mutual

/-- Whether all numbers of a value have a property. -/
def EachNumber (holds : Number → Prop) : Json → Prop
  | number value => holds value
  | array items => EachNumberItems holds items
  | object members => EachNumberMembers holds members
  | _ => True

def EachNumberItems (holds : Number → Prop) : List Json → Prop
  | [] => True
  | item :: rest => EachNumber holds item ∧ EachNumberItems holds rest

def EachNumberMembers (holds : Number → Prop) : List (String × Json) → Prop
  | [] => True
  | (_, value) :: rest => EachNumber holds value ∧ EachNumberMembers holds rest

end

theorem eachNumber_array_iff {holds : Number → Prop} {items : List Json} :
    EachNumber holds (array items) ↔ ∀ item ∈ items, EachNumber holds item := by
  rw [EachNumber]
  induction items with
  | nil => simp [EachNumberItems]
  | cons item rest induction => simp [EachNumberItems, induction]

theorem eachNumber_object_iff {holds : Number → Prop} {members : List (String × Json)} :
    EachNumber holds (object members) ↔ ∀ member ∈ members, EachNumber holds member.2 := by
  rw [EachNumber]
  induction members with
  | nil => simp [EachNumberMembers]
  | cons member rest induction => simp [EachNumberMembers, induction]

namespace Descent

/-! ## The reader -/

def isSpace (character : Char) : Bool :=
  character == ' ' || character == '\n' || character == '\r' || character == '\t'

def skip (text : List Char) : List Char := text.dropWhile isSpace

/-- Whether a character may stand in a numeral. -/
def isNumeral (character : Char) : Bool :=
  character.isDigit || character == '-' || character == '+' || character == '.' ||
    character == 'e' || character == 'E'

/-- The unit of four hexadecimal digits. -/
def unit? (first second third fourth : Char) : Option Nat := do
  return (((← Text.hexValue? first) * 16 + (← Text.hexValue? second)) * 16 +
    (← Text.hexValue? third)) * 16 + (← Text.hexValue? fourth)

def isHighSurrogate (unit : Nat) : Bool := 0xD800 ≤ unit && unit ≤ 0xDBFF
def isLowSurrogate (unit : Nat) : Bool := 0xDC00 ≤ unit && unit ≤ 0xDFFF

/-- What was read with one more character in front. -/
def withCharacter (character : Char) (read : Option (List Char × List Char)) :
    Option (List Char × List Char) :=
  read.map (fun parts => (character :: parts.1, parts.2))

/-- The characters of a string up to the quote at its end, and what follows. -/
def characters? : List Char → Option (List Char × List Char)
  | [] => none
  | character :: rest =>
      if character = '"' then some ([], rest)
      else if character = '\\' then
        match rest with
        | [] => none
        | 'u' :: first :: second :: third :: fourth :: rest =>
            match unit? first second third fourth with
            | none => none
            | some unit =>
                if isHighSurrogate unit then
                  match rest with
                  | '\\' :: 'u' :: first :: second :: third :: fourth :: rest =>
                      match unit? first second third fourth with
                      | none => none
                      | some low =>
                          if isLowSurrogate low then
                            withCharacter
                              (Char.ofNat (0x10000 + (unit - 0xD800) * 0x400 + (low - 0xDC00)))
                              (characters? rest)
                          else none
                  | _ => none
                else if isLowSurrogate unit then none
                else withCharacter (Char.ofNat unit) (characters? rest)
        | letter :: rest =>
            match Reader.unescaped? letter with
            | none => none
            | some meant => withCharacter meant (characters? rest)
      else if character.toNat < 32 then none
      else withCharacter character (characters? rest)

/-- A word that has begun. -/
def word? (missing : String) (value : Json) (text : List Char) : Option (Json × List Char) :=
  if missing.toList.isPrefixOf text then some (value, text.drop missing.toList.length) else none

/-- A member of an object, its value read as given, and what follows. -/
def member? (readValue : List Char → Option (Json × List Char)) (text : List Char) :
    Option ((String × Json) × List Char) :=
  match skip text with
  | '"' :: rest => do
      let (name, rest) ← characters? rest
      match skip rest with
      | ':' :: rest =>
          let (value, rest) ← readValue rest
          return ((String.ofList name, value), rest)
      | _ => none
  | _ => none

section Values

variable (numberOf : List Char → Option Number)

mutual

/-- A value at the beginning of a text, and what follows. -/
def value? : Nat → List Char → Option (Json × List Char)
  | 0, _ => none
  | fuel + 1, text =>
      match skip text with
      | [] => none
      | head :: tail =>
          if head = '"' then
            (characters? tail).map (fun read => (string (String.ofList read.1), read.2))
          else if head = '[' then
            match skip tail with
            | ']' :: rest => some (array [], rest)
            | rest => do
                let (item, rest) ← value? fuel rest
                let (items, rest) ← moreItems? fuel rest
                return (array (item :: items), rest)
          else if head = '\x7b' then
            match skip tail with
            | '\x7d' :: rest => some (object [], rest)
            | rest => do
                let (member, rest) ← member? (value? fuel) rest
                let (members, rest) ← moreMembers? fuel rest
                return (object (member :: members), rest)
          else if head = 'n' then word? "ull" null tail
          else if head = 't' then word? "rue" (boolean true) tail
          else if head = 'f' then word? "alse" (boolean false) tail
          else
            (numberOf ((head :: tail).takeWhile isNumeral)).map
              (fun read => (number read, (head :: tail).dropWhile isNumeral))

/-- The further items of an array, each after a comma, up to its end. -/
def moreItems? : Nat → List Char → Option (List Json × List Char)
  | 0, _ => none
  | fuel + 1, text =>
      match skip text with
      | ']' :: rest => some ([], rest)
      | ',' :: rest => do
          let (item, rest) ← value? fuel rest
          let (items, rest) ← moreItems? fuel rest
          return (item :: items, rest)
      | _ => none

/-- The further members of an object, each after a comma, up to its end. -/
def moreMembers? : Nat → List Char → Option (List (String × Json) × List Char)
  | 0, _ => none
  | fuel + 1, text =>
      match skip text with
      | '\x7d' :: rest => some ([], rest)
      | ',' :: rest => do
          let (member, rest) ← member? (value? fuel) rest
          let (members, rest) ← moreMembers? fuel rest
          return (member :: members, rest)
      | _ => none

end

/-- The value that a whole text is. -/
def read? (text : String) : Option Json := do
  let (value, rest) ← value? numberOf (2 * text.length) text.toList
  if (skip rest).isEmpty then some value else none

end Values

/-! ## Strings -/

theorem characters?_escape {letter meant : Char} (isLetter : letter ≠ 'u')
    (escape : Reader.unescaped? letter = some meant) (rest : List Char) :
    characters? ('\\' :: letter :: rest) = withCharacter meant (characters? rest) := by
  rw [characters?, if_neg (by decide), if_pos rfl]
  · rw [escape]
  · intro first second third fourth more same
    exact absurd same isLetter

theorem characters?_unicode {character : Char} (control : character.toNat < 32)
    (rest : List Char) :
    characters? ('\\' :: 'u' :: '0' :: '0' :: Text.hexDigit (character.toNat / 16) ::
        Text.hexDigit (character.toNat % 16) :: rest) =
      withCharacter character (characters? rest) := by
  have high := Text.hexValue?_hexDigit (character.toNat / 16) (by omega)
  have low := Text.hexValue?_hexDigit (character.toNat % 16) (by omega)
  have zero : Text.hexValue? '0' = some 0 := rfl
  have unit : unit? '0' '0' (Text.hexDigit (character.toNat / 16))
      (Text.hexDigit (character.toNat % 16)) = some character.toNat := by
    simp only [unit?, zero, high, low, Option.bind_eq_bind, Option.bind_some, Option.pure_def,
      Option.some.injEq]
    omega
  have noHigh : isHighSurrogate character.toNat = false := by
    simp [isHighSurrogate]
    omega
  have noLow : isLowSurrogate character.toNat = false := by
    simp [isLowSurrogate]
    omega
  rw [characters?, if_neg (by decide), if_pos rfl]
  simp only [unit, noHigh, noLow, Bool.false_eq_true, if_false, Char.ofNat_toNat]

/-- A character of a string is read back from what is written of it. -/
theorem characters?_escaped (character : Char) (rest : List Char) :
    characters? (escaped character ++ rest) = withCharacter character (characters? rest) := by
  have ofCode {code : Nat} (same : character.toNat = code) : Char.ofNat code = character := by
    rw [← same, Char.ofNat_toNat]
  unfold escaped
  split
  next quote => exact characters?_escape (by decide) (by rw [quote]; rfl) rest
  next notQuote =>
  split
  next solidus => exact characters?_escape (by decide) (by rw [solidus]; rfl) rest
  next notSolidus =>
  split
  next newLine => exact characters?_escape (by decide) (by rw [newLine]; rfl) rest
  next =>
  split
  next carriage => exact characters?_escape (by decide) (by rw [carriage]; rfl) rest
  next =>
  split
  next tab => exact characters?_escape (by decide) (by rw [tab]; rfl) rest
  next =>
  split
  next back => exact characters?_escape (by decide) (by rw [← ofCode back]; rfl) rest
  next =>
  split
  next feed => exact characters?_escape (by decide) (by rw [← ofCode feed]; rfl) rest
  next =>
  split
  next control => exact characters?_unicode control rest
  next noControl =>
      rw [List.cons_append, List.nil_append, characters?.eq_def]
      simp only [if_neg notQuote, if_neg notSolidus, if_neg noControl]

theorem characters?_flatMap_escaped (text : List Char) (rest : List Char) :
    characters? (text.flatMap escaped ++ '"' :: rest) = some (text, rest) := by
  induction text with
  | nil =>
      rw [List.flatMap_nil, List.nil_append, characters?.eq_def]
      exact if_pos rfl
  | cons head tail induction =>
      rw [List.flatMap_cons, List.append_assoc, characters?_escaped, induction]
      rfl

/-! ## Numerals -/

theorem isNumeral_of_extendsNumber {earlier : List Char} {character : Char}
    (taken : extendsNumber earlier character = true) : isNumeral character = true := by
  unfold extendsNumber at taken
  unfold isNumeral
  split at taken
  · rename_i digit
    simp [digit]
  · split at taken
    · rename_i point
      simp [point]
    · split at taken
      · rename_i power
        rw [Bool.or_eq_true, decide_eq_true_eq, decide_eq_true_eq] at power
        rcases power with same | same <;> simp [same]
      · split at taken
        · rename_i sign
          rw [Bool.or_eq_true, decide_eq_true_eq, decide_eq_true_eq] at sign
          rcases sign with same | same <;> simp [same]
        · cases taken

theorem isNumeral_of_extendsBy {earlier text : List Char}
    (goesOn : extendsBy earlier text = true) : ∀ character ∈ text, isNumeral character = true := by
  induction text generalizing earlier with
  | nil => nofun
  | cons head tail induction =>
      rw [extendsBy, Bool.and_eq_true] at goesOn
      rw [List.forall_mem_cons]
      exact ⟨isNumeral_of_extendsNumber goesOn.1, induction goesOn.2⟩

/-- What is written of a number has no other characters than numerals have, and begins with a sign
or a digit. -/
theorem exists_numeral {number : Number} (kept : number.Kept) :
    ∃ head tail, numberText number = head :: tail ∧ (head = '-' ∨ head.isDigit = true) ∧
      ∀ character ∈ numberText number, isNumeral character = true := by
  obtain ⟨-, head, tail, text, begins, goesOn⟩ := exists_numberText kept
  refine ⟨head, tail, text, begins, ?_⟩
  rw [text, List.forall_mem_cons]
  refine ⟨?_, isNumeral_of_extendsBy goesOn⟩
  rcases begins with rfl | digit
  · rfl
  · simp [isNumeral, digit]

/-- A numeral ends where a value does. -/
theorem span_numeral {text rest : List Char}
    (all : ∀ character ∈ text, isNumeral character = true) (ends : Reader.Ends rest) :
    (text ++ rest).takeWhile isNumeral = text ∧ (text ++ rest).dropWhile isNumeral = rest := by
  have stops : rest.takeWhile isNumeral = [] ∧ rest.dropWhile isNumeral = rest := by
    cases rest with
    | nil => exact ⟨rfl, rfl⟩
    | cons head tail =>
        have noNumeral : isNumeral head = false := by
          rcases ends head (by simp) with rfl | rfl | rfl <;> rfl
        simp [noNumeral]
  rw [List.takeWhile_append_of_pos all, List.dropWhile_append_of_pos all, stops.1, stops.2,
    List.append_nil]
  exact ⟨rfl, rfl⟩

/-! ## Values -/

mutual

/-- How many calls within each other reading back what is written of a value takes at most. -/
def depth : Json → Nat
  | array items => depthItems items + 1
  | object members => depthMembers members + 1
  | _ => 1

def depthItems : List Json → Nat
  | [] => 1
  | item :: rest => depth item + depthItems rest + 1

def depthMembers : List (String × Json) → Nat
  | [] => 1
  | (_, value) :: rest => depth value + depthMembers rest + 1

end

mutual

/-- Reading back takes no more calls than the text allows for. -/
theorem depth_le : ∀ value : Json, depth value ≤ 2 * value.write.length
  | null => by decide
  | boolean true => by decide
  | boolean false => by decide
  | number value => by
      have nonempty := List.length_pos_iff.2 (numberText_ne_nil value)
      simp only [depth, write]
      omega
  | string text => by
      simp only [depth, write, quoted, List.length_cons]
      omega
  | array [] => by decide
  | array (item :: rest) => by
      have first := depth_le item
      have others := depthItems_le rest
      simp only [depth, depthItems, write, List.length_cons, List.length_append]
      omega
  | object [] => by decide
  | object ((name, value) :: rest) => by
      have first := depth_le value
      have others := depthMembers_le rest
      simp only [depth, depthMembers, write, List.length_cons, List.length_append]
      omega

theorem depthItems_le : ∀ items : List Json,
    depthItems items + 1 ≤ 2 * (writeItems items).length
  | [] => by decide
  | item :: rest => by
      have first := depth_le item
      have others := depthItems_le rest
      simp only [depthItems, writeItems, List.length_cons, List.length_append]
      omega

theorem depthMembers_le : ∀ members : List (String × Json),
    depthMembers members + 1 ≤ 2 * (writeMembers members).length
  | [] => by decide
  | (name, value) :: rest => by
      have first := depth_le value
      have others := depthMembers_le rest
      simp only [depthMembers, writeMembers, List.length_cons, List.length_append]
      omega

end

section ReadBack

variable {numberOf : List Char → Option Number}

theorem skip_of_not_space {head : Char} (noSpace : isSpace head = false) (tail : List Char) :
    skip (head :: tail) = head :: tail := by
  simp [skip, noSpace]

/-- The characters that begin another value than a number, or close something, and the blanks. -/
def marks : List Char := ['"', '[', '\x7b', 'n', 't', 'f', ']', '\x7d', ' ', '\n', '\r', '\t']

theorem not_mark {head : Char} (begins : head = '-' ∨ head.isDigit = true) : head ∉ marks := by
  intro mark
  have noDigit : ∀ mark ∈ marks, mark.isDigit = false ∧ mark ≠ '-' := by
    simp [marks, Char.isDigit]
  rcases begins with same | digit
  · exact (noDigit head mark).2 same
  · rw [(noDigit head mark).1] at digit
    cases digit

/-- What is written of a value begins neither with a blank nor with the end of an array. -/
theorem exists_write {value : Json} (kept : EachNumber (Number.ReadExactly numberOf) value) :
    ∃ head tail, value.write = head :: tail ∧ isSpace head = false ∧ head ≠ ']' := by
  cases value with
  | number value =>
      obtain ⟨head, tail, text, begins, -⟩ := exists_numeral kept.1
      have noMark := not_mark begins
      simp only [marks, List.mem_cons, not_or] at noMark
      exact ⟨head, tail, text, by simp [isSpace, noMark], by simp [noMark]⟩
  | null => exact ⟨_, _, rfl, rfl, by decide⟩
  | boolean value => cases value <;> exact ⟨_, _, rfl, rfl, by decide⟩
  | string text => exact ⟨_, _, rfl, rfl, by decide⟩
  | array items => cases items <;> exact ⟨_, _, rfl, rfl, by decide⟩
  | object members => cases members <;> exact ⟨_, _, rfl, rfl, by decide⟩

theorem value?_number {number : Number} (kept : number.ReadExactly numberOf) (fuel : Nat)
    {rest : List Char} (ends : Reader.Ends rest) :
    value? numberOf (fuel + 1) (numberText number ++ rest) = some (.number number, rest) := by
  obtain ⟨head, tail, text, begins, all⟩ := exists_numeral kept.1
  have parts := span_numeral all ends
  have noMark := not_mark begins
  simp only [marks, List.mem_cons, not_or] at noMark
  have noSpace : isSpace head = false := by simp [isSpace, noMark]
  rw [text, List.cons_append] at parts ⊢
  rw [value?, skip_of_not_space noSpace]
  simp only [noMark, if_false, parts]
  rw [← text, kept.2, Option.map_some]

theorem value?_string (text : String) (fuel : Nat) (rest : List Char) :
    value? numberOf (fuel + 1) (quoted text ++ rest) = some (.string text, rest) := by
  have quote : quoted text ++ rest = '"' :: (text.toList.flatMap escaped ++ '"' :: rest) := by
    simp [quoted]
  rw [quote, value?, skip_of_not_space (by decide)]
  simp only [if_true, characters?_flatMap_escaped, Option.map_some, String.ofList_toList]

/-- A member is read back if its value is. -/
theorem member?_written {readValue : List Char → Option (Json × List Char)} (name : String)
    {value : Json} {text rest : List Char} (read : readValue text = some (value, rest)) :
    member? readValue (quoted name ++ ':' :: text) = some ((name, value), rest) := by
  have quote : quoted name ++ ':' :: text =
      '"' :: (name.toList.flatMap escaped ++ '"' :: ':' :: text) := by
    simp [quoted]
  have colon : skip (':' :: text) = ':' :: text := skip_of_not_space (by decide) text
  rw [quote, member?, skip_of_not_space (by decide)]
  simp [characters?_flatMap_escaped, colon, read]

theorem membersText_cons (name : String) (value : Json) (others : List (String × Json))
    (rest : List Char) : Reader.membersText ((name, value) :: others) ++ rest =
      quoted name ++ ':' :: (value.write ++ (writeMembers others ++ rest)) := by
  simp [Reader.membersText]

theorem ends_writeItems (items : List Json) (rest : List Char) :
    Reader.Ends (writeItems items ++ rest) := by
  cases items with
  | nil => exact Reader.ends_cons _ (by simp)
  | cons item items => exact Reader.ends_cons _ (by simp)

theorem ends_writeMembers (members : List (String × Json)) (rest : List Char) :
    Reader.Ends (writeMembers members ++ rest) := by
  cases members with
  | nil => exact Reader.ends_cons _ (by simp)
  | cons member members => exact Reader.ends_cons _ (by simp)

theorem value?_array {fuel : Nat} {item : Json} {items : List Json}
    {text following rest : List Char} {head : Char} {tail : List Char}
    (begins : text = head :: tail) (noSpace : isSpace head = false) (noClose : head ≠ ']')
    (first : value? numberOf fuel text = some (item, following))
    (others : moreItems? numberOf fuel following = some (items, rest)) :
    value? numberOf (fuel + 1) ('[' :: text) = some (array (item :: items), rest) := by
  subst begins
  rw [value?, skip_of_not_space (by decide)]
  simp [skip_of_not_space noSpace, noClose, first, others]

theorem value?_object {fuel : Nat} {member : String × Json} {members : List (String × Json)}
    {text following rest : List Char}
    (first : member? (value? numberOf fuel) ('"' :: text) = some (member, following))
    (others : moreMembers? numberOf fuel following = some (members, rest)) :
    value? numberOf (fuel + 1) ('\x7b' :: '"' :: text) =
      some (object (member :: members), rest) := by
  have quote : skip ('"' :: text) = '"' :: text := skip_of_not_space (by decide) text
  rw [value?, skip_of_not_space (by decide)]
  simp [quote, first, others]

mutual

/-- A value that was written is read back, whatever follows where it ends. -/
theorem value?_write : ∀ (value : Json) {fuel : Nat} {rest : List Char},
    EachNumber (Number.ReadExactly numberOf) value → depth value ≤ fuel → Reader.Ends rest →
    value? numberOf fuel (value.write ++ rest) = some (value, rest)
  | value, 0, rest, _, enough, _ => by
      cases value <;> simp [depth] at enough
  | null, fuel + 1, rest, _, _, _ => rfl
  | boolean true, fuel + 1, rest, _, _, _ => rfl
  | boolean false, fuel + 1, rest, _, _, _ => rfl
  | number value, fuel + 1, rest, kept, _, ends => value?_number kept fuel ends
  | string text, fuel + 1, rest, _, _, _ => value?_string text fuel rest
  | array [], fuel + 1, rest, _, _, _ => rfl
  | array (item :: items), fuel + 1, rest, kept, enough, _ => by
      obtain ⟨head, tail, text, noSpace, noClose⟩ := exists_write kept.1
      have room : depth item ≤ fuel ∧ depthItems items ≤ fuel := by
        simp only [depth, depthItems] at enough
        omega
      have first := value?_write item kept.1 room.1 (ends_writeItems items rest)
      rw [write, List.cons_append, List.append_assoc]
      exact value?_array (congrArg (· ++ (writeItems items ++ rest)) text) noSpace noClose first
        (moreItems?_write items kept.2 room.2)
  | object [], fuel + 1, rest, _, _, _ => rfl
  | object ((name, value) :: members), fuel + 1, rest, kept, enough, _ => by
      have room : depth value ≤ fuel ∧ depthMembers members ≤ fuel := by
        simp only [depth, depthMembers] at enough
        omega
      have first := value?_write value kept.1 room.1 (ends_writeMembers members rest)
      rw [Reader.write_object, List.cons_append, membersText_cons]
      exact value?_object (member?_written name first) (moreMembers?_write members kept.2 room.2)

theorem moreItems?_write : ∀ (items : List Json) {fuel : Nat} {rest : List Char},
    EachNumberItems (Number.ReadExactly numberOf) items → depthItems items ≤ fuel →
    moreItems? numberOf fuel (writeItems items ++ rest) = some (items, rest)
  | items, 0, rest, _, enough => by
      cases items <;> simp [depthItems] at enough
  | [], fuel + 1, rest, _, _ => rfl
  | item :: items, fuel + 1, rest, kept, enough => by
      have room : depth item ≤ fuel ∧ depthItems items ≤ fuel := by
        simp only [depthItems] at enough
        omega
      have first := value?_write item kept.1 room.1 (ends_writeItems items rest)
      have others : moreItems? numberOf fuel (writeItems items ++ rest) = some (items, rest) :=
        moreItems?_write items kept.2 room.2
      rw [writeItems, List.cons_append, List.append_assoc, moreItems?,
        skip_of_not_space (by decide)]
      simp [first, others]

theorem moreMembers?_write : ∀ (members : List (String × Json)) {fuel : Nat} {rest : List Char},
    EachNumberMembers (Number.ReadExactly numberOf) members → depthMembers members ≤ fuel →
    moreMembers? numberOf fuel (writeMembers members ++ rest) = some (members, rest)
  | members, 0, rest, _, enough => by
      cases members <;> simp [depthMembers] at enough
  | [], fuel + 1, rest, _, _ => rfl
  | (name, value) :: members, fuel + 1, rest, kept, enough => by
      have room : depth value ≤ fuel ∧ depthMembers members ≤ fuel := by
        simp only [depthMembers] at enough
        omega
      have first := value?_write value kept.1 room.1 (ends_writeMembers members rest)
      have named := member?_written name first
      have others : moreMembers? numberOf fuel (writeMembers members ++ rest) =
          some (members, rest) := moreMembers?_write members kept.2 room.2
      have text : writeMembers ((name, value) :: members) ++ rest =
          ',' :: (quoted name ++ ':' :: (value.write ++ (writeMembers members ++ rest))) := by
        simp [writeMembers]
      rw [text, moreMembers?, skip_of_not_space (by decide)]
      simp [named, others]

end

/-- Compact text is read back to the value that was written. -/
theorem read?_compact {value : Json} (kept : EachNumber (Number.ReadExactly numberOf) value) :
    read? numberOf value.compact = some value := by
  have whole := value?_write value kept (depth_le value) Reader.ends_nil
  rw [List.append_nil] at whole
  rw [read?, compact, String.toList_ofList, String.length_ofList, whole]
  rfl

end ReadBack

end Descent

end Json

end CandleAlerts
