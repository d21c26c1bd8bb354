import BlockVolume.Text.Utf8
/-!
Texts whose encoding is told by a byte order mark.

Without a mark the bytes are UTF-8. A mark is never part of the text.
-/

namespace BlockVolume.Text.Charset

/-- Joins bytes to 16-bit units, the low byte second unless `littleEndian`; an odd byte at the end
is a broken unit. -/
def units (littleEndian : Bool) : Bytes → List (Option Nat)
  | a :: b :: rest =>
    some (if littleEndian then b.toNat * 256 + a.toNat else a.toNat * 256 + b.toNat)
      :: units littleEndian rest
  | [_] => [none]
  | [] => []

/-- Characters of 16-bit units, with a replacement character for each unpaired surrogate. -/
def ofUnits : List (Option Nat) → List Char
  | some high :: some low :: rest =>
    if 0xD800 ≤ high && high ≤ 0xDBFF then
      if 0xDC00 ≤ low && low ≤ 0xDFFF then
        Char.ofNat (0x10000 + (high - 0xD800) * 1024 + (low - 0xDC00)) :: ofUnits rest
      else '\uFFFD' :: ofUnits (some low :: rest)
    else if 0xDC00 ≤ high && high ≤ 0xDFFF then '\uFFFD' :: ofUnits (some low :: rest)
    else Char.ofNat high :: ofUnits (some low :: rest)
  | some unit :: none :: rest =>
    if 0xD800 ≤ unit && unit ≤ 0xDBFF then '\uFFFD' :: ofUnits rest
    else if 0xDC00 ≤ unit && unit ≤ 0xDFFF then '\uFFFD' :: ofUnits (none :: rest)
    else Char.ofNat unit :: ofUnits (none :: rest)
  | [some unit] => [if 0xD800 ≤ unit && unit ≤ 0xDFFF then '\uFFFD' else Char.ofNat unit]
  | none :: rest => '\uFFFD' :: ofUnits rest
  | [] => []

/-- Decodes any bytes, in the encoding their byte order mark tells. -/
def decode : Bytes → List Char
  | 0xEF :: 0xBB :: 0xBF :: rest => Utf8.decodeLossy rest
  | 0xFF :: 0xFE :: rest => ofUnits (units true rest)
  | 0xFE :: 0xFF :: rest => ofUnits (units false rest)
  | bytes => Utf8.decodeLossy bytes

end BlockVolume.Text.Charset
