import CandleAlerts.Json.Numeral
import CandleAlerts.Json.Shape
import CandleAlerts.Text.Hex
import CandleAlerts.Word

/-!
Reading JSON text.

The reader takes one character at a time and stops at the first one that no JSON text goes on with.
Its state is the stack of the arrays and objects that are still open, what the text may go on with,
and the lexeme it is inside of. A text is read when every character is taken and nothing is open at
its end.
-/

namespace CandleAlerts.Json

/-- An array or object still open, how much of it is wanted, and its parts latest first. -/
inductive Frame where
  | array (shape : Shape) (items : List Json)
  | object (shape : Shape) (members : List (String × Json))
  /-- An object whose latest member has a name and not yet a value. -/
  | member (shape : Shape) (members : List (String × Json)) (name : String)

/-- What the text may go on with between lexemes. -/
inductive Expected where
  | value
  | valueOrClose
  | name
  | nameOrClose
  | colon
  | commaOrClose
  | nothing (result : Json)

/-- The lexeme that the reader is inside of, its characters latest first. -/
inductive Lexeme where
  | none
  | string (text : List Char)
  | escape (text : List Char)
  /-- Inside `\uXXXX`: the digits still missing, their value so far, and a high surrogate before. -/
  | unicode (text : List Char) (missing : Nat) (value : Nat) (high : Option Nat)
  /-- After a high surrogate: the low one must follow. -/
  | surrogate (text : List Char) (high : Nat) (sawSolidus : Bool)
  | number (text : List Char)
  /-- A word of which some characters are still missing. -/
  | word (missing : List Char) (value : Json)

/-- The state of reading. -/
structure Reader where
  /-- How much of the value of the text is wanted. -/
  shape : Shape := .whole
  stack : List Frame := []
  expected : Expected := .value
  lexeme : Lexeme := .none

/-- How many arrays and objects may be open at once. -/
def maximalDepth : Nat := 127

/-- Whether a numeral, its characters latest first, goes on with a character. -/
def extendsNumber (text : List Char) (character : Char) : Bool :=
  if character.isDigit then true
  else if character = '.' then text.all (fun earlier => earlier.isDigit || earlier == '-')
  else if character = 'e' || character = 'E' then
    text.all (fun earlier => earlier != 'e' && earlier != 'E')
  else if character = '+' || character = '-' then
    text.head? == some 'e' || text.head? == some 'E'
  else false

/-- The parts of a numeral: no zero leads, digits stand on both sides of a point. -/
def numeral? (text : List Char) : Option Decimal.Numeral :=
  let (negative, body) := match text with
    | '-' :: rest => (true, rest)
    | other => (false, other)
  let wholeAllowed := match body.takeWhile Char.isDigit with
    | [] => false
    | '0' :: _ :: _ => false
    | _ => true
  let pointAllowed := match body.dropWhile Char.isDigit with
    | '.' :: digit :: _ => digit.isDigit
    | '.' :: [] => false
    | _ => true
  if wholeAllowed && pointAllowed then Decimal.readUnsigned? negative body else none

/-- The number of a numeral. An integer of at most 64 bits is one; any other number is a double. -/
def number? (text : List Char) : Option Number :=
  (numeral? text).bind (fun numeral =>
    let isWhole := text.all (fun character => character.isDigit || character == '-')
    let magnitude := Int.ofNat (numeral.whole.foldl
      (fun sofar character => sofar * 10 + (Decimal.digit? character).getD 0) 0)
    let value := if numeral.negative then -magnitude else magnitude
    let isZeroBelow := numeral.negative && magnitude == 0
    if isWhole && !isZeroBelow && Word.least ≤ value && value < UInt64.size then
      some (.integer value)
    else (numeralFloat? numeral).map Number.double)

namespace Reader

/-- How much is wanted of what comes next: a value, or the name of a member. -/
def wanted (reader : Reader) : Shape :=
  match reader.stack with
  | [] => reader.shape
  | .array shape items :: _ => shape.item items
  | .object shape _ :: _ => shape
  | .member shape _ name :: _ => shape.member name

def complete (reader : Reader) (value : Json) : Option Reader :=
  match reader.stack with
  | [] => some { reader with expected := .nothing value, lexeme := .none }
  | .array shape items :: rest =>
      some { reader with
        stack := .array shape (value :: items) :: rest, expected := .commaOrClose, lexeme := .none }
  | .member shape members name :: rest =>
      some { reader with
        stack := .object shape ((name, value) :: members) :: rest
        expected := .commaOrClose
        lexeme := .none }
  | .object _ _ :: _ => none

/-- Open an array or object. Only what is wanted has a limit of depth. -/
def openFrame (reader : Reader) (frame : Shape → Frame) (expected : Expected) : Option Reader :=
  if reader.wanted.isPassed || reader.stack.length < maximalDepth then
    some { reader with stack := frame reader.wanted :: reader.stack, expected }
  else none

/-- Finish the innermost array. -/
def closeArray (reader : Reader) : Option Reader :=
  match reader.stack with
  | .array _ items :: rest => { reader with stack := rest }.complete (.array items.reverse)
  | _ => none

/-- Finish the innermost object. -/
def closeObject (reader : Reader) : Option Reader :=
  match reader.stack with
  | .object _ members :: rest => { reader with stack := rest }.complete (.object members.reverse)
  | _ => none

/-- Finish a string, which is a member's name or a value. -/
def completeString (reader : Reader) (text : List Char) : Option Reader :=
  let written := String.ofList text.reverse
  match reader.expected, reader.stack with
  | .name, .object shape members :: rest | .nameOrClose, .object shape members :: rest =>
      some { reader with
        stack := .member shape members written :: rest, expected := .colon, lexeme := .none }
  | .value, _ | .valueOrClose, _ => reader.complete (.string written)
  | _, _ => none

def mayStartValue (reader : Reader) : Bool :=
  match reader.expected with
  | .value | .valueOrClose => true
  | _ => false

def beginScalar (reader : Reader) (character : Char) : Option Reader :=
  let inside (lexeme : Lexeme) : Option Reader := some { reader with lexeme }
  match character with
  | 'n' => inside (.word "ull".toList .null)
  | 't' => inside (.word "rue".toList (.boolean true))
  | 'f' => inside (.word "alse".toList (.boolean false))
  | other => if other = '-' || other.isDigit then inside (.number [other]) else none

def takeBetween (reader : Reader) (character : Char) : Option Reader :=
  if character = ' ' || character = '\n' || character = '\r' || character = '\t' then some reader
  else match character, reader.expected with
  | '"', .value | '"', .valueOrClose | '"', .name | '"', .nameOrClose =>
      some { reader with lexeme := .string [] }
  | '[', .value | '[', .valueOrClose => reader.openFrame (.array · []) .valueOrClose
  | '\x7b', .value | '\x7b', .valueOrClose => reader.openFrame (.object · []) .nameOrClose
  | ']', .valueOrClose | ']', .commaOrClose => reader.closeArray
  | '\x7d', .nameOrClose | '\x7d', .commaOrClose => reader.closeObject
  | ':', .colon => some { reader with expected := .value }
  | ',', .commaOrClose =>
      match reader.stack with
      | .array _ _ :: _ => some { reader with expected := .value }
      | .object _ _ :: _ => some { reader with expected := .name }
      | _ => none
  | other, _ => if reader.mayStartValue then reader.beginScalar other else none

/-- Finish a number that the text has come to the end of. -/
def settle (reader : Reader) : Option Reader :=
  match reader.lexeme with
  | .none => some reader
  | .number text =>
      if reader.wanted.isPassed then
        (numeral? text.reverse).bind (fun _ => reader.complete .null)
      else (number? text.reverse).bind (fun value => reader.complete (.number value))
  | _ => none

def unescaped? (character : Char) : Option Char :=
  match character with
  | '"' => some '"'
  | '\\' => some '\\'
  | '/' => some '/'
  | 'b' => some (Char.ofNat 8)
  | 'f' => some (Char.ofNat 12)
  | 'n' => some '\n'
  | 'r' => some '\r'
  | 't' => some '\t'
  | _ => none

/-- Finish `\uXXXX`. Surrogates stand in pairs, a high one first. -/
def completeUnicode (text : List Char) (unit : Nat) : Option Nat → Option Lexeme
  | none =>
      if 0xD800 ≤ unit ∧ unit ≤ 0xDBFF then some (.surrogate text unit false)
      else if 0xDC00 ≤ unit ∧ unit ≤ 0xDFFF then none
      else some (.string (Char.ofNat unit :: text))
  | some high =>
      if 0xDC00 ≤ unit ∧ unit ≤ 0xDFFF then
        some (.string (Char.ofNat (0x10000 + (high - 0xD800) * 0x400 + (unit - 0xDC00)) :: text))
      else none

/-- Take a digit of `\uXXXX`. -/
def takeUnicode (reader : Reader) (text : List Char) (missing unit : Nat) (high : Option Nat) :
    Option Reader :=
  if 1 < missing then some { reader with lexeme := .unicode text (missing - 1) unit high }
  else if reader.wanted.isPassed then some { reader with lexeme := .string text }
  else (completeUnicode text unit high).map (fun lexeme => { reader with lexeme })

def take (reader : Reader) (character : Char) : Option Reader :=
  let inside (lexeme : Lexeme) : Reader := { reader with lexeme }
  match reader.lexeme with
  | .none => reader.takeBetween character
  | .string text =>
      if character = '"' then reader.completeString text
      else if character = '\\' then some (inside (.escape text))
      else if character.toNat < 32 then none
      else some (inside (.string (character :: text)))
  | .escape text =>
      if character = 'u' then some (inside (.unicode text 4 0 none))
      else (unescaped? character).map (fun meant => inside (.string (meant :: text)))
  | .unicode text missing value high =>
      (Text.hexValue? character).bind (fun digit =>
        reader.takeUnicode text missing (value * 16 + digit) high)
  | .surrogate text high sawSolidus =>
      if sawSolidus then
        if character = 'u' then some (inside (.unicode text 4 0 (some high))) else none
      else
        if character = '\\' then some (inside (.surrogate text high true)) else none
  | .number text =>
      if extendsNumber text character then some (inside (.number (character :: text)))
      else reader.settle.bind (fun settled => settled.takeBetween character)
  | .word missing value =>
      match missing with
      | [] => none
      | next :: rest =>
          if character = next then
            if rest.isEmpty then reader.complete value else some (inside (.word rest value))
          else none

/-- Take the characters of a text as long as possible; with the state, what is left. -/
def advance (reader : Reader) : List Char → Reader × List Char
  | [] => (reader.settle.getD reader, [])
  | character :: rest =>
      match reader.take character with
      | some next => advance next rest
      | none => (reader.settle.getD reader, character :: rest)

/-- The value read, if it is complete. -/
def result? (reader : Reader) : Option Json :=
  match reader.expected with
  | .nothing value => some value
  | _ => none

end Reader

/-- Read what is wanted of a value. The members of an object keep their order and may repeat a
name. -/
def readAs? (shape : Shape) (text : String) : Option Json :=
  match Reader.advance { shape } text.toList with
  | (reader, []) => reader.result?
  | _ => none

def read? (text : String) : Option Json := readAs? .whole text

def parse? (text : String) : Option Json :=
  (read? text).map normal

end CandleAlerts.Json
