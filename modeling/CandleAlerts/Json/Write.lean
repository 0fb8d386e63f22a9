import CandleAlerts.Json.Basic
import CandleAlerts.Decimal.Written
import CandleAlerts.Text.Hex

/-!
Compact JSON text.

No blank stands between the parts. A string escapes the quote, the reverse solidus and the control
characters and nothing else. The canonical text is that of the normal form, so it does not depend on
the order in which members were written.
-/

namespace CandleAlerts.Json

def escaped (character : Char) : List Char :=
  if character = '"' then ['\\', '"']
  else if character = '\\' then ['\\', '\\']
  else if character = '\n' then ['\\', 'n']
  else if character = '\r' then ['\\', 'r']
  else if character = '\t' then ['\\', 't']
  else if character.toNat = 8 then ['\\', 'b']
  else if character.toNat = 12 then ['\\', 'f']
  else if character.toNat < 32 then
    ['\\', 'u', '0', '0', Text.hexDigit (character.toNat / 16),
      Text.hexDigit (character.toNat % 16)]
  else [character]

def quoted (text : String) : List Char :=
  '"' :: (text.toList.flatMap escaped ++ ['"'])

def numberText : Number → List Char
  | .integer value => Decimal.writeInt value
  | .double value => Decimal.writeFloat .json value

mutual

/-- The compact text of a value, the members of an object in the order they have. -/
def write : Json → List Char
  | null => "null".toList
  | boolean true => "true".toList
  | boolean false => "false".toList
  | number value => numberText value
  | string text => quoted text
  | array [] => ['[', ']']
  | array (item :: rest) => '[' :: (write item ++ writeItems rest)
  | object [] => ['\x7b', '\x7d']
  | object ((name, value) :: rest) =>
    '\x7b' :: (quoted name ++ ':' :: write value ++ writeMembers rest)

/-- The further items of an array, each after a comma, and its end. -/
def writeItems : List Json → List Char
  | [] => [']']
  | item :: rest => ',' :: (write item ++ writeItems rest)

/-- The further members of an object, each after a comma, and its end. -/
def writeMembers : List (String × Json) → List Char
  | [] => ['\x7d']
  | (name, value) :: rest => ',' :: (quoted name ++ ':' :: write value ++ writeMembers rest)

end

def compact (value : Json) : String := String.ofList value.write

/-- The text of a value's normal form: the members of every object in increasing order of their
names. -/
def canonical (value : Json) : String := value.normal.compact

def ofAnyFloat (value : Float) : Json :=
  if value.isFinite then .number (.double value) else .string (Decimal.label value)

end CandleAlerts.Json
