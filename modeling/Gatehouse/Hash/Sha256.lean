/-!
# SHA-256

The hash of 256 bits: a message filled up to blocks of 64 octets, and 64 rounds for each.
-/

namespace Gatehouse.Sha256

/-- The eight words of a digest, and of the state between two blocks. -/
structure Digest where
  a : UInt32
  b : UInt32
  c : UInt32
  d : UInt32
  e : UInt32
  f : UInt32
  g : UInt32
  h : UInt32
deriving DecidableEq, Repr

/-- The state before the first block. -/
def initial : Digest where
  a := 0x6a09e667
  b := 0xbb67ae85
  c := 0x3c6ef372
  d := 0xa54ff53a
  e := 0x510e527f
  f := 0x9b05688c
  g := 0x1f83d9ab
  h := 0x5be0cd19

/-- The constants of the 64 rounds. -/
def constants : List UInt32 :=
  [0x428a2f98, 0x71374491, 0xb5c0fbcf, 0xe9b5dba5, 0x3956c25b, 0x59f111f1, 0x923f82a4, 0xab1c5ed5,
    0xd807aa98, 0x12835b01, 0x243185be, 0x550c7dc3, 0x72be5d74, 0x80deb1fe, 0x9bdc06a7, 0xc19bf174,
    0xe49b69c1, 0xefbe4786, 0x0fc19dc6, 0x240ca1cc, 0x2de92c6f, 0x4a7484aa, 0x5cb0a9dc, 0x76f988da,
    0x983e5152, 0xa831c66d, 0xb00327c8, 0xbf597fc7, 0xc6e00bf3, 0xd5a79147, 0x06ca6351, 0x14292967,
    0x27b70a85, 0x2e1b2138, 0x4d2c6dfc, 0x53380d13, 0x650a7354, 0x766a0abb, 0x81c2c92e, 0x92722c85,
    0xa2bfe8a1, 0xa81a664b, 0xc24b8b70, 0xc76c51a3, 0xd192e819, 0xd6990624, 0xf40e3585, 0x106aa070,
    0x19a4c116, 0x1e376c08, 0x2748774c, 0x34b0bcb5, 0x391c0cb3, 0x4ed8aa4a, 0x5b9cca4f, 0x682e6ff3,
    0x748f82ee, 0x78a5636f, 0x84c87814, 0x8cc70208, 0x90befffa, 0xa4506ceb, 0xbef9a3f7, 0xc67178f2]

/-- A word turned right by a number of bits below 32. -/
def rotate (w : UInt32) (bits : UInt32) : UInt32 :=
  (w >>> bits) ||| (w <<< (32 - bits))

/-- The state after one round with a word of the schedule and the round's constant. -/
def round (s : Digest) (word constant : UInt32) : Digest :=
  let mixE := rotate s.e 6 ^^^ rotate s.e 11 ^^^ rotate s.e 25
  let choice := (s.e &&& s.f) ^^^ (~~~s.e &&& s.g)
  let first := s.h + mixE + choice + constant + word
  let mixA := rotate s.a 2 ^^^ rotate s.a 13 ^^^ rotate s.a 22
  let majority := (s.a &&& s.b) ^^^ (s.a &&& s.c) ^^^ (s.b &&& s.c)
  ⟨first + mixA + majority, s.a, s.b, s.c, s.d + first, s.e, s.f, s.g⟩

/-- The schedule's next word, from the sixteen before it. -/
def nextWord (window : List UInt32) : UInt32 :=
  let x := window.getD 1 0
  let y := window.getD 14 0
  let small := rotate x 7 ^^^ rotate x 18 ^^^ (x >>> 3)
  let great := rotate y 17 ^^^ rotate y 19 ^^^ (y >>> 10)
  window.headD 0 + small + window.getD 9 0 + great

/-- The rounds of one block, with the window of sixteen words that starts at the present round. -/
def rounds : (constants : List UInt32) → (window : List UInt32) → Digest → Digest
  | [], _, s => s
  | k :: ks, window, s =>
    rounds ks (window.drop 1 ++ [nextWord window]) (round s (window.headD 0) k)

/-- The state after a block of sixteen words. -/
def absorb (s : Digest) (block : List UInt32) : Digest :=
  let t := rounds constants block s
  ⟨s.a + t.a, s.b + t.b, s.c + t.c, s.d + t.d, s.e + t.e, s.f + t.f, s.g + t.g, s.h + t.h⟩

/-- The octets of a word, the greatest first. -/
def wordOctets (w : UInt32) : List UInt8 :=
  [3, 2, 1, 0].map fun i => .ofNat (w.toNat / Nat.pow 256 i)

/-- Words from octets, 4 octets each. -/
def words : (count : Nat) → List UInt8 → List UInt32
  | 0, _ => []
  | count + 1, octets =>
    (octets.take 4).foldl (fun w x => w <<< 8 ||| .ofNat x.toNat) 0 :: words count (octets.drop 4)

/-- The message filled up to whole blocks: a single bit, zeros and the length in bits. -/
def fill (message : List UInt8) : List UInt8 :=
  let size := message.length
  message ++ 0x80 :: List.replicate ((128 - (size + 9) % 64) % 64) 0 ++
    (List.range 8).map fun i => .ofNat (size * 8 / Nat.pow 256 (7 - i))

/-- The state after a number of blocks of 64 octets. -/
def absorbAll : (count : Nat) → List UInt8 → Digest → Digest
  | 0, _, s => s
  | count + 1, octets, s => absorbAll count (octets.drop 64) (absorb s (words 16 octets))

/-- The digest of a message. -/
def digest (message : List UInt8) : Digest :=
  let filled := fill message
  absorbAll (filled.length / 64) filled initial

/-- The octets of a digest. -/
def Digest.octets (s : Digest) : List UInt8 :=
  [s.a, s.b, s.c, s.d, s.e, s.f, s.g, s.h].flatMap wordOctets

end Gatehouse.Sha256
