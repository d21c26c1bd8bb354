import BlockVolume.Text.Utf8
/-!
SHA-1: a message is padded to blocks of 64 bytes, and each block is mixed into five 32-bit words.
-/

namespace BlockVolume.Digest

open BlockVolume.Text (Bytes)

/-- The five chaining words. -/
structure Sha1State where
  a : UInt32
  b : UInt32
  c : UInt32
  d : UInt32
  e : UInt32

namespace Sha1

/-- The chaining words before the first block. -/
def start : Sha1State := ⟨0x67452301, 0xEFCDAB89, 0x98BADCFE, 0x10325476, 0xC3D2E1F0⟩

/-- Rotates left by `n` bits, `n` between 1 and 31. -/
def rotate (x n : UInt32) : UInt32 := (x <<< n) ||| (x >>> (32 - n))

/-- `count` bytes of a number, the most significant first. -/
def bigEndian (count n : Nat) : Bytes :=
  (List.range count).map fun i => UInt8.ofNat (n >>> (8 * (count - 1 - i)))

/-- The message, a one bit, zeros up to the last eight bytes of a block, and its length in bits. -/
def pad (message : Bytes) : Bytes :=
  message ++ 0x80 :: List.replicate ((119 - message.length % 64) % 64) 0 ++
    bigEndian 8 (message.length * 8)

/-- Joins bytes to words, four at a time. -/
def words : Bytes → List UInt32
  | p :: q :: r :: s :: rest =>
    (p.toUInt32 <<< 24 ||| q.toUInt32 <<< 16 ||| r.toUInt32 <<< 8 ||| s.toUInt32) :: words rest
  | _ => []

/-- Extends the words of a block by `n`, each mixed from four earlier ones. -/
def extend : Nat → Array UInt32 → Array UInt32
  | 0, w => w
  | n + 1, w =>
    let t := w.size
    extend n <| w.push <| rotate
      (w.getD (t - 3) 0 ^^^ w.getD (t - 8) 0 ^^^ w.getD (t - 14) 0 ^^^ w.getD (t - 16) 0) 1

/-- The mixing function and constant of round `t`. -/
def mix (t : Nat) (b c d : UInt32) : UInt32 × UInt32 :=
  if t < 20 then ((b &&& c) ||| ((b ^^^ 0xFFFFFFFF) &&& d), 0x5A827999)
  else if t < 40 then (b ^^^ c ^^^ d, 0x6ED9EBA1)
  else if t < 60 then ((b &&& c) ||| (b &&& d) ||| (c &&& d), 0x8F1BBCDC)
  else (b ^^^ c ^^^ d, 0xCA62C1D6)

/-- One round on one word. -/
def round (s : Sha1State) (tw : Nat × UInt32) : Sha1State :=
  let (f, k) := mix tw.1 s.b s.c s.d
  ⟨rotate s.a 5 + f + s.e + k + tw.2, s.a, rotate s.b 30, s.c, s.d⟩

/-- Mixes one block of sixteen words into the chaining words. -/
def block (s : Sha1State) (w : List UInt32) : Sha1State :=
  let rounds := (extend 64 w.toArray).toList.zipIdx.map fun (word, t) => (t, word)
  let m := rounds.foldl round s
  ⟨s.a + m.a, s.b + m.b, s.c + m.c, s.d + m.d, s.e + m.e⟩

/-- The words in groups of sixteen, `n` groups at most. -/
def blocks : Nat → List UInt32 → List (List UInt32)
  | 0, _ => []
  | n + 1, w => if w.isEmpty then [] else w.take 16 :: blocks n (w.drop 16)

end Sha1

/-- The 20-byte SHA-1 digest of a message. -/
def sha1 (message : Bytes) : Bytes :=
  let w := Sha1.words (Sha1.pad message)
  let s := (Sha1.blocks w.length w).foldl Sha1.block Sha1.start
  [s.a, s.b, s.c, s.d, s.e].flatMap fun x => Sha1.bigEndian 4 x.toNat

end BlockVolume.Digest
