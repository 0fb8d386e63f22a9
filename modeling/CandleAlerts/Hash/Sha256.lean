/-!
The hash function SHA-256.

A message is padded to whole blocks of 64 bytes. Each block is spread over a schedule of 64 words,
with which eight chaining words are stirred once for each word.
-/

namespace CandleAlerts.Hash

def roundConstants : List UInt32 :=
  [0x428a2f98, 0x71374491, 0xb5c0fbcf, 0xe9b5dba5, 0x3956c25b, 0x59f111f1, 0x923f82a4, 0xab1c5ed5,
   0xd807aa98, 0x12835b01, 0x243185be, 0x550c7dc3, 0x72be5d74, 0x80deb1fe, 0x9bdc06a7, 0xc19bf174,
   0xe49b69c1, 0xefbe4786, 0x0fc19dc6, 0x240ca1cc, 0x2de92c6f, 0x4a7484aa, 0x5cb0a9dc, 0x76f988da,
   0x983e5152, 0xa831c66d, 0xb00327c8, 0xbf597fc7, 0xc6e00bf3, 0xd5a79147, 0x06ca6351, 0x14292967,
   0x27b70a85, 0x2e1b2138, 0x4d2c6dfc, 0x53380d13, 0x650a7354, 0x766a0abb, 0x81c2c92e, 0x92722c85,
   0xa2bfe8a1, 0xa81a664b, 0xc24b8b70, 0xc76c51a3, 0xd192e819, 0xd6990624, 0xf40e3585, 0x106aa070,
   0x19a4c116, 0x1e376c08, 0x2748774c, 0x34b0bcb5, 0x391c0cb3, 0x4ed8aa4a, 0x5b9cca4f, 0x682e6ff3,
   0x748f82ee, 0x78a5636f, 0x84c87814, 0x8cc70208, 0x90befffa, 0xa4506ceb, 0xbef9a3f7, 0xc67178f2]

/-- The eight words carried from block to block. -/
structure Chaining where
  a : UInt32
  b : UInt32
  c : UInt32
  d : UInt32
  e : UInt32
  f : UInt32
  g : UInt32
  h : UInt32

namespace Chaining

/-- The words before the first block. -/
def initial : Chaining :=
  ⟨0x6a09e667, 0xbb67ae85, 0x3c6ef372, 0xa54ff53a,
     0x510e527f, 0x9b05688c, 0x1f83d9ab, 0x5be0cd19⟩

def add (left right : Chaining) : Chaining :=
  ⟨left.a + right.a, left.b + right.b, left.c + right.c, left.d + right.d,
   left.e + right.e, left.f + right.f, left.g + right.g, left.h + right.h⟩

def words (chaining : Chaining) : List UInt32 :=
  [chaining.a, chaining.b, chaining.c, chaining.d, chaining.e, chaining.f, chaining.g, chaining.h]

end Chaining

/-- Turn a word right by fewer than 32 places. -/
def turnRight (word places : UInt32) : UInt32 :=
  (word >>> places) ||| (word <<< (32 - places))

def stir (state : Chaining) (constant word : UInt32) : Chaining :=
  let mixedE := turnRight state.e 6 ^^^ turnRight state.e 11 ^^^ turnRight state.e 25
  let choice := (state.e &&& state.f) ^^^ (~~~state.e &&& state.g)
  let first := state.h + mixedE + choice + constant + word
  let mixedA := turnRight state.a 2 ^^^ turnRight state.a 13 ^^^ turnRight state.a 22
  let majority := (state.a &&& state.b) ^^^ (state.a &&& state.c) ^^^ (state.b &&& state.c)
  ⟨first + mixedA + majority, state.a, state.b, state.c, state.d + first, state.e, state.f, state.g⟩

/-- Add further words to a schedule, each made of earlier ones. -/
def extendSchedule (schedule : Array UInt32) : Nat → Array UInt32
  | 0 => schedule
  | count + 1 =>
      let back (distance : Nat) : UInt32 := schedule.getD (schedule.size - distance) 0
      let near := turnRight (back 2) 17 ^^^ turnRight (back 2) 19 ^^^ (back 2 >>> 10)
      let far := turnRight (back 15) 7 ^^^ turnRight (back 15) 18 ^^^ (back 15 >>> 3)
      extendSchedule (schedule.push (near + back 7 + far + back 16)) count

/-- The words of four bytes each, the most significant byte first. -/
def wordsOfBytes : List UInt8 → List UInt32
  | first :: second :: third :: fourth :: rest =>
      ((first.toUInt32 <<< 24) ||| (second.toUInt32 <<< 16) ||| (third.toUInt32 <<< 8) |||
        fourth.toUInt32) :: wordsOfBytes rest
  | _ => []

/-- The bytes of a word, the most significant first. -/
def bytesOfWord (word : UInt32) : List UInt8 :=
  [(word >>> 24).toUInt8, (word >>> 16).toUInt8, (word >>> 8).toUInt8, word.toUInt8]

/-- Take in one block of 64 bytes. -/
def absorbBlock (state : Chaining) (block : List UInt8) : Chaining :=
  let schedule := (extendSchedule (wordsOfBytes block).toArray 48).toList
  state.add ((roundConstants.zip schedule).foldl (fun state entry =>
    stir state entry.1 entry.2) state)

/-- The message with its padding: a single bit, zeros, and the count of its bits in eight bytes. -/
def padded (message : List UInt8) : List UInt8 :=
  let bits := UInt64.ofNat (message.length * 8)
  let zeros : List UInt8 := List.replicate ((119 - message.length % 64) % 64) 0
  message ++ (0x80 : UInt8) :: (zeros ++ bytesOfWord (bits >>> 32).toUInt32 ++
    bytesOfWord bits.toUInt32)

def absorb (state : Chaining) (message : List UInt8) : Chaining :=
  if message.isEmpty then state
  else absorb (absorbBlock state (message.take 64)) (message.drop 64)
termination_by message.length
decreasing_by
  have positive : 0 < message.length := by
    rcases message with _ | _
    · simp_all
    · simp
  simp only [List.length_drop]
  omega

/-- The SHA-256 hash of a message: 32 bytes. -/
def sha256 (message : List UInt8) : List UInt8 :=
  (absorb Chaining.initial (padded message)).words.flatMap bytesOfWord

end CandleAlerts.Hash
