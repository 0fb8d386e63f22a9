import CandleAlerts.Proofs.NumeralTexts

/-!
JSON text read back.

Written text is read by one character after the other, with the rest of the text at hand: a part
that was written takes the reader to where it has completed the value of the part, whatever follows.
What is read is the value that was written, with each of its doubles as its numeral stands for
it.
-/

namespace CandleAlerts

open Json

/-! ## What is read back -/

/-- A number that its numeral stands for: an integer of 64 bits or a finite double. -/
def Number.Kept : Number → Prop
  | .integer value => Word.least ≤ value ∧ value < UInt64.size
  | .double value => value.isFinite = true

/-- The number that the numeral of a number stands for. -/
def Number.reread (number : Number) : Number :=
  (number? (numberText number)).getD number

theorem Number.reread_integer {value : Int} (kept : (Number.integer value).Kept) :
    (Number.integer value).reread = .integer value := by
  rw [reread, numberText, number?_writeInt kept.1 kept.2]
  rfl

namespace Json

/-- A numeral that is read, with how the reader goes through it. -/
theorem exists_numberText {number : Number} (kept : number.Kept) :
    number? (numberText number) = some number.reread ∧
      ∃ head tail, numberText number = head :: tail ∧ (head = '-' ∨ head.isDigit = true) ∧
        extendsBy [head] tail = true := by
  cases number with
  | integer value =>
      have proper := isProper_toDigits (decide (value < 0)) value.natAbs
      obtain ⟨head, tail, text, begins, goesOn⟩ := WrittenNumeral.exists_text proper
      refine ⟨?_, head, tail, ?_, begins, goesOn⟩
      · rw [Number.reread_integer kept, numberText, number?_writeInt kept.1 kept.2]
      · rw [← text]
        exact (WrittenNumeral.text_ofInt value).symm
  | double value =>
      obtain ⟨written, reads, text⟩ := exists_writeFloat kept
      obtain ⟨double, read⟩ := reads.number?_text
      rw [text] at read
      have again : number? (numberText (.double value)) = some (.double double) := read
      refine ⟨?_, ?_⟩
      · rw [Number.reread, again]
        rfl
      · rw [numberText, ← text]
        exact WrittenNumeral.exists_text reads.proper

mutual

/-- A value that the reader keeps: its numbers are kept, and it opens no more arrays and objects
within each other than there is room for. -/
def Readable (room : Nat) : Json → Prop
  | number value => value.Kept
  | array items => 0 < room ∧ ReadableItems (room - 1) items
  | object members => 0 < room ∧ ReadableMembers (room - 1) members
  | _ => True

def ReadableItems (room : Nat) : List Json → Prop
  | [] => True
  | item :: rest => item.Readable room ∧ ReadableItems room rest

def ReadableMembers (room : Nat) : List (String × Json) → Prop
  | [] => True
  | (_, value) :: rest => value.Readable room ∧ ReadableMembers room rest

end

mutual

/-- The value with every number as its numeral stands for it. -/
def reread : Json → Json
  | number value => number value.reread
  | array items => array (rereadItems items)
  | object members => object (rereadMembers members)
  | other => other

def rereadItems : List Json → List Json
  | [] => []
  | item :: rest => item.reread :: rereadItems rest

def rereadMembers : List (String × Json) → List (String × Json)
  | [] => []
  | (name, value) :: rest => (name, value.reread) :: rereadMembers rest

end

/-! ## One character after the other -/

namespace Reader

theorem advance_cons {reader : Reader} (next : Reader) {character : Char} {rest : List Char}
    (taken : reader.take character = some next) :
    reader.advance (character :: rest) = next.advance rest := by
  rw [advance, taken]

/-! ## Words -/

theorem advance_word {reader next : Reader} {value : Json} {missing rest : List Char}
    (given : missing ≠ []) (completes : reader.complete value = some next) :
    { reader with lexeme := .word missing value }.advance (missing ++ rest) =
      next.advance rest := by
  induction missing with
  | nil => exact absurd rfl given
  | cons head tail induction =>
      cases tail with
      | nil =>
          refine advance_cons _ ?_
          simp only [take, if_true, List.isEmpty_nil]
          exact completes
      | cons second rest =>
          rw [List.cons_append, advance_cons ({ reader with
            lexeme := .word (second :: rest) value })]
          · exact induction (by simp)
          · simp [take]

/-! ## Numbers -/

/-- Where a value ends: the text ends, or a mark of an array or object follows. -/
def Ends (rest : List Char) : Prop :=
  ∀ character ∈ rest.head?, character = ',' ∨ character = ']' ∨ character = '\x7d'

theorem ends_nil : Ends [] := by
  simp [Ends]

theorem ends_cons {character : Char} (rest : List Char)
    (mark : character = ',' ∨ character = ']' ∨ character = '\x7d') : Ends (character :: rest) := by
  simpa [Ends] using mark

theorem advance_numeral (reader : Reader) (earlier : List Char) {text : List Char}
    (goesOn : extendsBy earlier text = true) (rest : List Char) :
    { reader with lexeme := .number earlier }.advance (text ++ rest) =
      { reader with lexeme := .number (text.reverse ++ earlier) }.advance rest := by
  induction text generalizing earlier with
  | nil => rfl
  | cons head tail induction =>
      rw [extendsBy, Bool.and_eq_true] at goesOn
      rw [List.cons_append, advance_cons ({ reader with lexeme := .number (head :: earlier) })]
      · rw [induction _ goesOn.2, List.reverse_cons, List.append_assoc]
        rfl
      · simp [take, goesOn.1]

/-- A number is settled where it ends, and the reader goes on from there. -/
theorem advance_settle {reader next : Reader} {text rest : List Char} (ends : Ends rest)
    (settles : { reader with lexeme := .number text }.settle = some next)
    (between : next.lexeme = .none) :
    { reader with lexeme := .number text }.advance rest = next.advance rest := by
  have settled : next.settle = some next := by
    unfold settle
    rw [between]
  cases rest with
  | nil =>
      rw [advance, advance, settles, settled]
      rfl
  | cons head tail =>
      have stops : extendsNumber text head = false := by
        rcases ends head (by simp) with rfl | rfl | rfl <;> rfl
      have taken : { reader with lexeme := .number text }.take head = next.take head := by
        unfold take
        rw [between]
        simp [stops, settles]
      rw [advance, advance, taken, settles, settled]
      rfl

/-! ## Strings -/

/-- The reader inside of a string, its characters latest first. -/
def inString (reader : Reader) (text : List Char) : Reader := { reader with lexeme := .string text }

/-- A letter that stands for a character after a reverse solidus. -/
theorem advance_escape (reader : Reader) (earlier : List Char) {letter meant : Char}
    (isLetter : letter ≠ 'u') (escape : unescaped? letter = some meant) (rest : List Char) :
    (reader.inString earlier).advance ('\\' :: letter :: rest) =
      (reader.inString (meant :: earlier)).advance rest := by
  rw [advance_cons ({ reader with lexeme := .escape earlier }) (by rfl),
    advance_cons (reader.inString (meant :: earlier))]
  simp only [take, if_neg isLetter, escape]
  rfl

/-- The code of a control character in four digits. -/
theorem advance_unicode (reader : Reader) (wanted : reader.wanted.isPassed = false)
    (earlier : List Char) {character : Char} (control : character.toNat < 32) (rest : List Char) :
    (reader.inString earlier).advance ('\\' :: 'u' :: '0' :: '0' ::
        Text.hexDigit (character.toNat / 16) :: Text.hexDigit (character.toNat % 16) :: rest) =
      (reader.inString (character :: earlier)).advance rest := by
  have high := Text.hexValue?_hexDigit (character.toNat / 16) (by omega)
  have low := Text.hexValue?_hexDigit (character.toNat % 16) (by omega)
  have code : (0 * 16 + 0) * 16 + character.toNat / 16 = character.toNat / 16 := by omega
  have whole : character.toNat / 16 * 16 + character.toNat % 16 = character.toNat :=
    Nat.div_add_mod' _ _
  rw [advance_cons ({ reader with lexeme := .escape earlier }) (by rfl),
    advance_cons ({ reader with lexeme := .unicode earlier 4 0 none }) (by rfl),
    advance_cons ({ reader with lexeme := .unicode earlier 3 (0 * 16 + 0) none }) (by rfl),
    advance_cons ({ reader with lexeme := .unicode earlier 2 ((0 * 16 + 0) * 16 + 0) none })
      (by rfl),
    advance_cons ({ reader with
      lexeme := .unicode earlier 1 (character.toNat / 16) none }),
    advance_cons (reader.inString (character :: earlier))]
  · simp only [take, low, Option.bind_some, takeUnicode, whole]
    rw [if_neg (by decide), if_neg]
    swap
    · change ¬ reader.wanted.isPassed = true
      rw [wanted]
      decide
    simp only [completeUnicode]
    rw [if_neg (by omega), if_neg (by omega), Char.ofNat_toNat]
    rfl
  · simp only [take, high, Option.bind_some, takeUnicode]
    rw [if_pos (by decide), code]

/-- A character of a string is read back from what is written of it. -/
theorem advance_escaped (reader : Reader) (wanted : reader.wanted.isPassed = false)
    (earlier : List Char) (character : Char) (rest : List Char) :
    (reader.inString earlier).advance (escaped character ++ rest) =
      (reader.inString (character :: earlier)).advance rest := by
  have ofCode {code : Nat} (same : character.toNat = code) : character = Char.ofNat code := by
    rw [← same, Char.ofNat_toNat]
  unfold escaped
  split
  next quote => exact advance_escape reader earlier (by decide) (by rw [quote]; rfl) rest
  next notQuote =>
  split
  next solidus => exact advance_escape reader earlier (by decide) (by rw [solidus]; rfl) rest
  next notSolidus =>
  split
  next newLine => exact advance_escape reader earlier (by decide) (by rw [newLine]; rfl) rest
  next =>
  split
  next carriage => exact advance_escape reader earlier (by decide) (by rw [carriage]; rfl) rest
  next =>
  split
  next tab => exact advance_escape reader earlier (by decide) (by rw [tab]; rfl) rest
  next =>
  split
  next back => exact advance_escape reader earlier (by decide) (by rw [ofCode back]; rfl) rest
  next =>
  split
  next feed => exact advance_escape reader earlier (by decide) (by rw [ofCode feed]; rfl) rest
  next =>
  split
  next control => exact advance_unicode reader wanted earlier control rest
  next noControl =>
      refine advance_cons _ ?_
      simp only [take, inString, if_neg notQuote, if_neg notSolidus, if_neg noControl]

theorem advance_flatMap_escaped (reader : Reader) (wanted : reader.wanted.isPassed = false)
    (earlier text : List Char) (rest : List Char) :
    (reader.inString earlier).advance (text.flatMap escaped ++ rest) =
      (reader.inString (text.reverse ++ earlier)).advance rest := by
  induction text generalizing earlier with
  | nil => rfl
  | cons head tail induction =>
      rw [List.flatMap_cons, List.append_assoc, advance_escaped reader wanted, induction,
        List.reverse_cons, List.append_assoc]
      rfl

/-- A string that was written is read back where a string is expected. -/
theorem advance_quoted {reader : Reader} (next : Reader) (wanted : reader.wanted.isPassed = false)
    (between : reader.lexeme = .none)
    (begins : reader.takeBetween '"' = some (reader.inString []))
    {text : String} (completes : reader.completeString text.toList.reverse = some next)
    (rest : List Char) :
    reader.advance (quoted text ++ rest) = next.advance rest := by
  unfold quoted
  rw [List.cons_append, advance_cons (reader.inString []), List.append_assoc,
    advance_flatMap_escaped reader wanted, List.append_nil]
  · exact advance_cons _ completes
  · unfold take
    rw [between]
    exact begins

/-! ## Values -/

/-- A reader that a value may come next for, all of it wanted. -/
structure AwaitsValue (reader : Reader) : Prop where
  wanted : reader.wanted = .whole
  expects : reader.mayStartValue = true
  between : reader.lexeme = .none

theorem AwaitsValue.wanted_isPassed {reader : Reader} (awaits : reader.AwaitsValue) :
    reader.wanted.isPassed = false := by
  rw [awaits.wanted]
  rfl

theorem AwaitsValue.take {reader : Reader} (awaits : reader.AwaitsValue) (character : Char) :
    reader.take character = reader.takeBetween character := by
  unfold Reader.take
  rw [awaits.between]

theorem AwaitsValue.expected {reader : Reader} (awaits : reader.AwaitsValue) :
    reader.expected = .value ∨ reader.expected = .valueOrClose := by
  have expects := awaits.expects
  unfold mayStartValue at expects
  split at expects
  next same => exact .inl same
  next same => exact .inr same
  next => cases expects

theorem advance_string {reader next : Reader} (awaits : reader.AwaitsValue) {text : String}
    (completes : reader.complete (.string text) = some next) (rest : List Char) :
    reader.advance (quoted text ++ rest) = next.advance rest := by
  refine advance_quoted _ awaits.wanted_isPassed awaits.between ?_ ?_ rest
  · rcases awaits.expected with same | same <;> simp [takeBetween, same, inString]
  · rcases awaits.expected with same | same <;> simp [completeString, same, completes]

/-- The characters that stand between lexemes or begin anything but a number or a word. -/
def marks : List Char := [' ', '\n', '\r', '\t', '"', '[', ']', '\x7b', '\x7d', ':', ',']

theorem takeBetween_of_not_mark {reader : Reader} (awaits : reader.AwaitsValue) {character : Char}
    (noMark : character ∉ marks) : reader.takeBetween character = reader.beginScalar character := by
  simp only [marks, List.mem_cons, List.not_mem_nil, or_false, not_or] at noMark
  unfold takeBetween
  rw [if_neg (by simp [noMark])]
  split <;> simp_all [awaits.expects]

theorem not_mark_of_isDigit {character : Char} (isDigit : character.isDigit = true) :
    character ∉ marks := by
  intro member
  have marksNoDigits : ∀ mark ∈ marks, mark.isDigit = false := by simp [marks, Char.isDigit]
  exact Bool.false_ne_true ((marksNoDigits character member).symm.trans isDigit)

theorem advance_number {reader next : Reader} (awaits : reader.AwaitsValue) {number : Number}
    (kept : number.Kept) (completes : reader.complete (.number number.reread) = some next)
    {rest : List Char} (ends : Ends rest) (between : next.lexeme = .none) :
    reader.advance (numberText number ++ rest) = next.advance rest := by
  obtain ⟨read, head, tail, text, begins, goesOn⟩ := exists_numberText kept
  rw [text, List.cons_append, advance_cons ({ reader with lexeme := .number [head] }),
    advance_numeral reader [head] goesOn]
  · refine advance_settle ends ?_ between
    have characters : (tail.reverse ++ [head]).reverse = numberText number := by
      rw [text, List.reverse_append, List.reverse_reverse]
      rfl
    unfold settle
    dsimp only
    rw [if_neg, characters, read]
    · exact completes
    · change ¬ reader.wanted.isPassed = true
      rw [awaits.wanted_isPassed]
      decide
  · rw [awaits.take]
    have start : reader.beginScalar head = some { reader with lexeme := .number [head] } := by
      unfold beginScalar
      rcases begins with rfl | isDigit
      · rfl
      · split
        · exact absurd isDigit (by decide)
        · exact absurd isDigit (by decide)
        · exact absurd isDigit (by decide)
        · simp [isDigit]
    rw [takeBetween_of_not_mark awaits, start]
    rcases begins with rfl | isDigit
    · decide
    · exact not_mark_of_isDigit isDigit

theorem complete_between {reader next : Reader} {value : Json}
    (completes : reader.complete value = some next) : next.lexeme = .none := by
  unfold complete at completes
  split at completes <;> cases completes <;> rfl

/-- An array or object is opened where a value is awaited and there is room. -/
theorem openFrame_eq {top : Shape} {stack : List Frame} {before : Expected}
    (awaits : (Reader.mk top stack before .none).AwaitsValue)
    (room : 0 < maximalDepth - stack.length)
    (frame : Shape → Frame) (expected : Expected) :
    (Reader.mk top stack before .none).openFrame frame expected =
      some ⟨top, frame .whole :: stack, expected, .none⟩ := by
  unfold openFrame
  rw [awaits.wanted, if_pos]
  simp only [Bool.or_eq_true, decide_eq_true_eq]
  exact .inr (by omega)

/-- The name of a member, up to where its value is awaited. -/
theorem advance_name {top shape : Shape} {done : List (String × Json)} {below : List Frame}
    {expected : Expected} (named : expected = .name ∨ expected = .nameOrClose)
    (wanted : shape.isPassed = false) (name : String) (rest : List Char) :
    (Reader.mk top (.object shape done :: below) expected .none).advance
        (quoted name ++ ':' :: rest) =
      (Reader.mk top (.member shape done name :: below) .value .none).advance rest := by
  rw [advance_quoted ⟨top, .member shape done name :: below, .colon, .none⟩]
  · exact advance_cons _ rfl
  · exact wanted
  · rfl
  · rcases named with rfl | rfl <;> rfl
  · rcases named with rfl | rfl <;> simp [completeString]

/-- The text of an object after it is opened. -/
def membersText : List (String × Json) → List Char
  | [] => ['\x7d']
  | (name, value) :: rest => quoted name ++ ':' :: value.write ++ writeMembers rest

theorem write_object (members : List (String × Json)) :
    (object members).write = '\x7b' :: membersText members := by
  cases members <;> rfl

mutual

/-- A value that was written takes a reader to where it has completed the value. -/
theorem advance_write : ∀ (value : Json) {reader : Reader} (next : Reader) {rest : List Char},
    reader.AwaitsValue → value.Readable (maximalDepth - reader.stack.length) →
    reader.complete value.reread = some next → Ends rest →
    reader.advance (value.write ++ rest) = next.advance rest
  | null, reader, next, rest, awaits, _, completes, _ => by
      refine (advance_cons ({ reader with lexeme := .word "ull".toList .null }) ?_).trans
        (advance_word (by decide) completes)
      rw [awaits.take, takeBetween_of_not_mark awaits (by decide)]
      rfl
  | boolean true, reader, next, rest, awaits, _, completes, _ => by
      refine (advance_cons ({ reader with
        lexeme := .word "rue".toList (.boolean true) }) ?_).trans
        (advance_word (by decide) completes)
      rw [awaits.take, takeBetween_of_not_mark awaits (by decide)]
      rfl
  | boolean false, reader, next, rest, awaits, _, completes, _ => by
      refine (advance_cons ({ reader with
        lexeme := .word "alse".toList (.boolean false) }) ?_).trans
        (advance_word (by decide) completes)
      rw [awaits.take, takeBetween_of_not_mark awaits (by decide)]
      rfl
  | number value, reader, next, rest, awaits, kept, completes, ends =>
      advance_number awaits kept completes ends (complete_between completes)
  | string text, reader, next, rest, awaits, _, completes, _ =>
      advance_string awaits completes rest
  | array items, ⟨top, stack, expected, lexeme⟩, next, rest, awaits, readable, completes, _ => by
      obtain rfl : lexeme = .none := awaits.between
      have opened := openFrame_eq awaits readable.1 (.array · []) .valueOrClose
      have bracket : (Reader.mk top stack expected .none).take '[' =
          some ⟨top, .array .whole [] :: stack, .valueOrClose, .none⟩ := by
        rcases awaits.expected with same | same <;> cases same <;> exact opened
      cases items with
      | nil =>
          refine (advance_cons _ bracket).trans (advance_cons _ ?_)
          exact completes
      | cons item items =>
          change Reader.advance _ ('[' :: (item.write ++ writeItems items ++ rest)) = _
          rw [advance_cons _ bracket, List.append_assoc,
            advance_write item ⟨top, .array .whole [item.reread] :: stack,
              .commaOrClose, .none⟩ ⟨rfl, rfl, rfl⟩ ?_ rfl ?_]
          · exact advance_writeItems items readable.2.2 completes
          · exact readable.2.1
          · cases items <;> exact ends_cons _ (by simp)
  | object members, ⟨top, stack, expected, lexeme⟩, next, rest, awaits, readable, completes, _ => by
      obtain rfl : lexeme = .none := awaits.between
      have opened := openFrame_eq awaits readable.1 (.object · []) .nameOrClose
      have brace : (Reader.mk top stack expected .none).take '\x7b' =
          some ⟨top, .object .whole [] :: stack, .nameOrClose, .none⟩ := by
        rcases awaits.expected with same | same <;> cases same <;> exact opened
      rw [write_object, List.cons_append, advance_cons _ brace]
      exact advance_membersText members rfl (fun _ _ => rfl) readable.2 completes

/-- The further items of an array, up to where the array is complete. -/
theorem advance_writeItems : ∀ (items : List Json) {top : Shape} {done : List Json}
    {below : List Frame} {next : Reader} {rest : List Char},
    ReadableItems (maximalDepth - below.length - 1) items →
    (Reader.mk top below .commaOrClose .none).complete
      (.array (done.reverse ++ rereadItems items)) = some next →
    (Reader.mk top (.array .whole done :: below) .commaOrClose .none).advance
      (writeItems items ++ rest) = next.advance rest
  | [], top, done, below, next, rest, _, completes => by
      rw [rereadItems, List.append_nil] at completes
      exact advance_cons _ completes
  | item :: items, top, done, below, next, rest, readable, completes => by
      change Reader.advance _ (',' :: (item.write ++ writeItems items ++ rest)) = _
      rw [advance_cons ⟨top, .array .whole done :: below, .value, .none⟩ rfl,
        List.append_assoc,
        advance_write item ⟨top, .array .whole (item.reread :: done) :: below,
          .commaOrClose, .none⟩ ⟨rfl, rfl, rfl⟩ ?_ rfl ?_]
      · refine advance_writeItems items readable.2 ?_
        rw [List.reverse_cons, List.append_assoc]
        exact completes
      · exact readable.1
      · cases items <;> exact ends_cons _ (by simp)

/-- The further members of an object of which all are wanted, up to where the object is complete. -/
theorem advance_writeMembers : ∀ (members : List (String × Json)) {top shape : Shape}
    {done : List (String × Json)} {below : List Frame} {next : Reader} {rest : List Char},
    shape.isPassed = false → (∀ member ∈ members, shape.member member.1 = .whole) →
    ReadableMembers (maximalDepth - below.length - 1) members →
    (Reader.mk top below .commaOrClose .none).complete
      (.object (done.reverse ++ rereadMembers members)) = some next →
    (Reader.mk top (.object shape done :: below) .commaOrClose .none).advance
      (writeMembers members ++ rest) = next.advance rest
  | [], top, shape, done, below, next, rest, _, _, _, completes => by
      rw [rereadMembers, List.append_nil] at completes
      exact advance_cons _ completes
  | (name, value) :: members, top, shape, done, below, next, rest, wanted, whole, readable,
      completes => by
      change Reader.advance _
        (',' :: (quoted name ++ ':' :: value.write ++ writeMembers members ++ rest)) = _
      rw [advance_cons ⟨top, .object shape done :: below, .name, .none⟩ rfl,
        List.append_assoc, List.append_assoc, List.cons_append, advance_name (.inl rfl) wanted,
        advance_write value ⟨top, .object shape ((name, value.reread) :: done) :: below,
          .commaOrClose, .none⟩ ⟨?_, rfl, rfl⟩ ?_ rfl ?_]
      · refine advance_writeMembers members wanted
          (fun member among => whole member (List.mem_cons_of_mem _ among)) readable.2 ?_
        rw [List.reverse_cons, List.append_assoc]
        exact completes
      · exact whole (name, value) List.mem_cons_self
      · exact readable.1
      · cases members <;> exact ends_cons _ (by simp)

/-- The members of an object of which all are wanted, up to where the object is complete. -/
theorem advance_membersText : ∀ (members : List (String × Json)) {top shape : Shape}
    {below : List Frame} {next : Reader} {rest : List Char},
    shape.isPassed = false → (∀ member ∈ members, shape.member member.1 = .whole) →
    ReadableMembers (maximalDepth - below.length - 1) members →
    (Reader.mk top below .commaOrClose .none).complete
      (.object (rereadMembers members)) = some next →
    (Reader.mk top (.object shape [] :: below) .nameOrClose .none).advance
      (membersText members ++ rest) = next.advance rest
  | [], top, shape, below, next, rest, _, _, _, completes => advance_cons _ completes
  | (name, value) :: members, top, shape, below, next, rest, wanted, whole, readable,
      completes => by
      rw [membersText, List.append_assoc, List.append_assoc, List.cons_append,
        advance_name (.inr rfl) wanted,
        advance_write value ⟨top, .object shape [(name, value.reread)] :: below,
          .commaOrClose, .none⟩ ⟨?_, rfl, rfl⟩ ?_ rfl ?_]
      · exact advance_writeMembers members wanted
          (fun member among => whole member (List.mem_cons_of_mem _ among)) readable.2 completes
      · exact whole (name, value) List.mem_cons_self
      · exact readable.1
      · cases members <;> exact ends_cons _ (by simp)

end

end Reader

/-! ## Whole texts -/

/-- A value that was written is read back, with every number as its numeral stands for it. -/
theorem read?_compact {value : Json} (readable : value.Readable maximalDepth) :
    read? value.compact = some value.reread := by
  have advanced : Reader.advance {} (value.write ++ []) =
      Reader.advance { expected := .nothing value.reread } [] :=
    Reader.advance_write value _ ⟨rfl, rfl, rfl⟩ readable rfl Reader.ends_nil
  rw [List.append_nil] at advanced
  unfold read? readAs? compact
  rw [String.toList_ofList, advanced]
  rfl

/-- An object of which every member is wanted is read back. -/
theorem readAs?_compact {shape : Shape} (wanted : shape.isPassed = false)
    {members : List (String × Json)} (whole : ∀ member ∈ members, shape.member member.1 = .whole)
    (readable : ReadableMembers (maximalDepth - 1) members) :
    readAs? shape (compact (.object members)) = some (.object (rereadMembers members)) := by
  have brace : (Reader.mk shape [] .value .none).take '\x7b' =
      some ⟨shape, [.object shape []], .nameOrClose, .none⟩ := by
    have opened : (Reader.mk shape [] .value .none).openFrame (.object · []) .nameOrClose =
        some ⟨shape, [.object shape []], .nameOrClose, .none⟩ := by
      unfold Reader.openFrame
      rw [if_pos (by simp [maximalDepth])]
      rfl
    exact opened
  have advanced : (Reader.mk shape [.object shape []] .nameOrClose .none).advance
      (Reader.membersText members ++ []) =
        (Reader.mk shape [] (.nothing (.object (rereadMembers members))) .none).advance [] :=
    Reader.advance_membersText members wanted whole readable rfl
  rw [List.append_nil] at advanced
  unfold readAs? compact
  rw [String.toList_ofList, Reader.write_object, Reader.advance_cons _ brace, advanced]
  rfl

end Json

end CandleAlerts
