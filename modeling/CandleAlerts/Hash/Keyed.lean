import CandleAlerts.Hash.Sha256

/-!
Keyed hashes: the tag of a message that only the holder of a key can make.
-/

namespace CandleAlerts

abbrev Mac := (key message : String) → List UInt8

namespace Hash

def blockSize : Nat := 64

/-- A key brought to the size of a block: one that is longer is hashed first. -/
def blockKey (key : List UInt8) : List UInt8 :=
  let short := if blockSize < key.length then sha256 key else key
  short ++ List.replicate (blockSize - short.length) 0

/-- The tag of a message of bytes: the hash of an inner hash, each under a mask of the key. -/
def hmacBytes (key message : List UInt8) : List UInt8 :=
  let key := blockKey key
  let inner := sha256 (key.map (· ^^^ 0x36) ++ message)
  sha256 (key.map (· ^^^ 0x5c) ++ inner)

def hmacSha256 : Mac := fun key message =>
  hmacBytes key.toUTF8.toList message.toUTF8.toList

end Hash

end CandleAlerts
