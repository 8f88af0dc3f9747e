/-!
# SHA-256

**Message.**  The message is followed by a set bit, zeros, and its length in bits as
eight bytes, so that it fills blocks of 64 bytes.

**Compression.**  The sixteen words of a block are extended to a schedule of 64 words;
each word, with a constant of the round, is mixed into eight words of state, which are
then added to the state before the block.
-/

namespace Turnstile.Sha256

/-- The constants of the rounds. -/
def roundConstants : List UInt32 :=
  [0x428a2f98, 0x71374491, 0xb5c0fbcf, 0xe9b5dba5, 0x3956c25b, 0x59f111f1, 0x923f82a4,
    0xab1c5ed5, 0xd807aa98, 0x12835b01, 0x243185be, 0x550c7dc3, 0x72be5d74, 0x80deb1fe,
    0x9bdc06a7, 0xc19bf174, 0xe49b69c1, 0xefbe4786, 0x0fc19dc6, 0x240ca1cc, 0x2de92c6f,
    0x4a7484aa, 0x5cb0a9dc, 0x76f988da, 0x983e5152, 0xa831c66d, 0xb00327c8, 0xbf597fc7,
    0xc6e00bf3, 0xd5a79147, 0x06ca6351, 0x14292967, 0x27b70a85, 0x2e1b2138, 0x4d2c6dfc,
    0x53380d13, 0x650a7354, 0x766a0abb, 0x81c2c92e, 0x92722c85, 0xa2bfe8a1, 0xa81a664b,
    0xc24b8b70, 0xc76c51a3, 0xd192e819, 0xd6990624, 0xf40e3585, 0x106aa070, 0x19a4c116,
    0x1e376c08, 0x2748774c, 0x34b0bcb5, 0x391c0cb3, 0x4ed8aa4a, 0x5b9cca4f, 0x682e6ff3,
    0x748f82ee, 0x78a5636f, 0x84c87814, 0x8cc70208, 0x90befffa, 0xa4506ceb, 0xbef9a3f7,
    0xc67178f2]

/-- Eight words of state. -/
structure State where
  a : UInt32
  b : UInt32
  c : UInt32
  d : UInt32
  e : UInt32
  f : UInt32
  g : UInt32
  h : UInt32
  deriving DecidableEq

/-- The state before the first block. -/
def State.initial : State :=
  ⟨0x6a09e667, 0xbb67ae85, 0x3c6ef372, 0xa54ff53a, 0x510e527f, 0x9b05688c, 0x1f83d9ab,
    0x5be0cd19⟩

/-- The words of a state, in order. -/
def State.words (s : State) : List UInt32 := [s.a, s.b, s.c, s.d, s.e, s.f, s.g, s.h]

/-- The sum of two states, word by word. -/
def State.add (s t : State) : State :=
  ⟨s.a + t.a, s.b + t.b, s.c + t.c, s.d + t.d, s.e + t.e, s.f + t.f, s.g + t.g, s.h + t.h⟩

/-- The bits of a word turned to the right. -/
def turned (x count : UInt32) : UInt32 := (x >>> count) ||| (x <<< (32 - count))

/-- The next word of a schedule. -/
def nextWord (schedule : Array UInt32) : UInt32 :=
  let back := fun (n : Nat) => schedule.getD (schedule.size - n) 0
  let x := back 15
  let y := back 2
  back 16 + (turned x 7 ^^^ turned x 18 ^^^ (x >>> 3)) + back 7
    + (turned y 17 ^^^ turned y 19 ^^^ (y >>> 10))

/-- A schedule with some words more. -/
def extended (schedule : Array UInt32) : Nat → Array UInt32
  | 0 => schedule
  | count + 1 => extended (schedule.push (nextWord schedule)) count

/-- A word mixed into the state. -/
def round (s : State) (constant word : UInt32) : State :=
  let choice := (s.e &&& s.f) ^^^ (s.e.complement &&& s.g)
  let majority := (s.a &&& s.b) ^^^ (s.a &&& s.c) ^^^ (s.b &&& s.c)
  let first := s.h + (turned s.e 6 ^^^ turned s.e 11 ^^^ turned s.e 25) + choice + constant + word
  let second := (turned s.a 2 ^^^ turned s.a 13 ^^^ turned s.a 22) + majority
  ⟨first + second, s.a, s.b, s.c, s.d + first, s.e, s.f, s.g⟩

/-- The words of bytes, four to a word. -/
def wordsOf : List Nat → List UInt32
  | a :: b :: c :: d :: rest => UInt32.ofNat (((a * 256 + b) * 256 + c) * 256 + d) :: wordsOf rest
  | _ => []

/-- The state after a block. -/
def compress (s : State) (block : List Nat) : State :=
  let schedule := extended (wordsOf block).toArray 48
  let pairs := roundConstants.zip schedule.toList
  s.add (pairs.foldl (fun t pair => round t pair.1 pair.2) s)

/-- The bytes of a number, the most significant first. -/
def numberBytes (count n : Nat) : List Nat :=
  (List.range count).map fun i => n / Nat.pow 256 (count - 1 - i) % 256

/-- The number of zeros that fill the last block. -/
def zeroCount (length : Nat) : Nat := (119 - length % 64) % 64

/-- A message that fills its blocks. -/
def padded (message : List Nat) : List Nat :=
  message ++ 0x80 :: List.replicate (zeroCount message.length) 0
    ++ numberBytes 8 (8 * message.length)

/-- The state after so many blocks of a message. -/
def compressBlocks (s : State) (message : List Nat) : Nat → State
  | 0 => s
  | count + 1 => compressBlocks (compress s (message.take 64)) (message.drop 64) count

/-- The 32 bytes of the hash of a message. -/
def hash (message : List Nat) : List Nat :=
  let filled := padded message
  (compressBlocks State.initial filled (filled.length / 64)).words.flatMap fun w =>
    numberBytes 4 w.toNat

/-- A key as a block: hashed if it is longer than one, and filled up with zeros. -/
def keyBlock (key : List Nat) : List Nat :=
  let short := if 64 < key.length then hash key else key
  short ++ List.replicate (64 - short.length) 0

/-- The 32 bytes of the keyed hash of a message. -/
def keyedHash (key message : List Nat) : List Nat :=
  let block := keyBlock key
  hash (block.map (· ^^^ 0x5c) ++ hash (block.map (· ^^^ 0x36) ++ message))

end Turnstile.Sha256
