import AgentProbe.Text.Utf8

set_option autoImplicit false

/-!
The digest of a file: SHA-256 of its bytes, written as 64 lowercase hexadecimal digits.

The message is padded to blocks of sixteen words.  Each block is stretched to a schedule of 64
words, and the eight words of the state take one round for each of them.
-/

namespace AgentProbe.Digest

structure State where
  a : UInt32
  b : UInt32
  c : UInt32
  d : UInt32
  e : UInt32
  f : UInt32
  g : UInt32
  h : UInt32
deriving DecidableEq, Repr, Inhabited

def State.start : State :=
  ⟨0x6a09e667, 0xbb67ae85, 0x3c6ef372, 0xa54ff53a, 0x510e527f, 0x9b05688c, 0x1f83d9ab, 0x5be0cd19⟩

/-- The words added in the 64 rounds. -/
def roundWords : List UInt32 :=
  [0x428a2f98, 0x71374491, 0xb5c0fbcf, 0xe9b5dba5, 0x3956c25b, 0x59f111f1, 0x923f82a4, 0xab1c5ed5,
   0xd807aa98, 0x12835b01, 0x243185be, 0x550c7dc3, 0x72be5d74, 0x80deb1fe, 0x9bdc06a7, 0xc19bf174,
   0xe49b69c1, 0xefbe4786, 0x0fc19dc6, 0x240ca1cc, 0x2de92c6f, 0x4a7484aa, 0x5cb0a9dc, 0x76f988da,
   0x983e5152, 0xa831c66d, 0xb00327c8, 0xbf597fc7, 0xc6e00bf3, 0xd5a79147, 0x06ca6351, 0x14292967,
   0x27b70a85, 0x2e1b2138, 0x4d2c6dfc, 0x53380d13, 0x650a7354, 0x766a0abb, 0x81c2c92e, 0x92722c85,
   0xa2bfe8a1, 0xa81a664b, 0xc24b8b70, 0xc76c51a3, 0xd192e819, 0xd6990624, 0xf40e3585, 0x106aa070,
   0x19a4c116, 0x1e376c08, 0x2748774c, 0x34b0bcb5, 0x391c0cb3, 0x4ed8aa4a, 0x5b9cca4f, 0x682e6ff3,
   0x748f82ee, 0x78a5636f, 0x84c87814, 0x8cc70208, 0x90befffa, 0xa4506ceb, 0xbef9a3f7, 0xc67178f2]

def turn (word count : UInt32) : UInt32 :=
  (word >>> count) ||| (word <<< (32 - count))

/-- One round: a word of the schedule, with the round's own word added, enters the state. -/
def State.round (s : State) (word : UInt32) : State :=
  let choice := (s.e &&& s.f) ^^^ (s.e.complement &&& s.g)
  let majority := (s.a &&& s.b) ^^^ (s.a &&& s.c) ^^^ (s.b &&& s.c)
  let first := s.h + (turn s.e 6 ^^^ turn s.e 11 ^^^ turn s.e 25) + choice + word
  let second := (turn s.a 2 ^^^ turn s.a 13 ^^^ turn s.a 22) + majority
  ⟨first + second, s.a, s.b, s.c, s.d + first, s.e, s.f, s.g⟩

/-- The schedule from its last sixteen words on, with `count` words still to be made. -/
def stretch : Nat → List UInt32 → List UInt32
  | count + 1, w0 :: w1 :: rest =>
    let w9 := (rest[7]?).getD 0
    let w14 := (rest[12]?).getD 0
    let small := turn w1 7 ^^^ turn w1 18 ^^^ (w1 >>> 3)
    let large := turn w14 17 ^^^ turn w14 19 ^^^ (w14 >>> 10)
    w0 :: stretch count (w1 :: rest ++ [w0 + small + w9 + large])
  | _, words => words

def State.absorb (s : State) (block : List UInt32) : State :=
  let t := (List.zipWith (· + ·) roundWords (stretch 48 block)).foldl State.round s
  ⟨s.a + t.a, s.b + t.b, s.c + t.c, s.d + t.d, s.e + t.e, s.f + t.f, s.g + t.g, s.h + t.h⟩

def bytesOf (count value : Nat) : Bytes :=
  (List.range count).reverse.map fun place => UInt8.ofNat (value / Nat.pow 256 place)

/-- The message with its end mark, zeros up to a whole block, and its length in bits. -/
def pad (message : Bytes) : Bytes :=
  message ++ [0x80] ++ List.replicate ((119 - message.length % 64) % 64) 0
    ++ bytesOf 8 (message.length * 8)

def wordsOf : Bytes → List UInt32
  | b0 :: b1 :: b2 :: b3 :: rest =>
    ((b0.toUInt32 <<< 24) ||| (b1.toUInt32 <<< 16) ||| (b2.toUInt32 <<< 8) ||| b3.toUInt32)
      :: wordsOf rest
  | _ => []

def absorbAll : Nat → State → List UInt32 → State
  | 0, s, _ => s
  | _ + 1, s, [] => s
  | count + 1, s, words => absorbAll count (s.absorb (words.take 16)) (words.drop 16)

def hexOf (word : UInt32) : List Char :=
  (List.range 8).reverse.map fun place =>
    let digit := word.toNat / Nat.pow 16 place % 16
    Char.ofNat (if digit < 10 then 48 + digit else 87 + digit)

def ofBytes (message : Bytes) : String :=
  let words := wordsOf (pad message)
  let s := absorbAll words.length State.start words
  String.ofList ([s.a, s.b, s.c, s.d, s.e, s.f, s.g, s.h].flatMap hexOf)

end AgentProbe.Digest
