/-!
Bytes as hexadecimal text.

Bytes are written with lower case digits and read in either letter case.
-/

namespace CandleAlerts.Text

def hexDigit (value : Nat) : Char :=
  if value < 10 then Char.ofNat ('0'.toNat + value) else Char.ofNat ('a'.toNat + (value - 10))

/-- The value of a hexadecimal digit in either letter case. -/
def hexValue? (character : Char) : Option Nat :=
  if character.isDigit then some (character.toNat - '0'.toNat)
  else if 'a' ≤ character ∧ character ≤ 'f' then some (character.toNat - 'a'.toNat + 10)
  else if 'A' ≤ character ∧ character ≤ 'F' then some (character.toNat - 'A'.toNat + 10)
  else none

def hexOfBytes (bytes : List UInt8) : List Char :=
  bytes.flatMap (fun byte => [hexDigit (byte.toNat / 16), hexDigit (byte.toNat % 16)])

def bytesOfHex? : List Char → Option (List UInt8)
  | [] => some []
  | [_] => none
  | high :: low :: rest => do
      let high ← hexValue? high
      let low ← hexValue? low
      return UInt8.ofNat (high * 16 + low) :: (← bytesOfHex? rest)

example : hexOfBytes [0x0f, 0xa0] = "0fa0".toList := by decide
example : bytesOfHex? "0FA0".toList = some [0x0f, 0xa0] := by decide

end CandleAlerts.Text
