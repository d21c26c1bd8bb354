import BlockVolume.Text.Utf8
/-!
Percent-encoding: unreserved ASCII stands for itself, every other byte is written as a percent sign
and two upper-case hexadecimal digits. `decode` reads the escapes back byte by byte.
-/

namespace BlockVolume.Text.Percent

/-- The bytes that stand for themselves: ASCII letters and digits, and `-`, `_`, `.`, `~`. -/
def isUnreserved (b : UInt8) : Bool :=
  (0x41 ≤ b && b ≤ 0x5A) || (0x61 ≤ b && b ≤ 0x7A) || (0x30 ≤ b && b ≤ 0x39) ||
    b == 0x2D || b == 0x5F || b == 0x2E || b == 0x7E

/-- The upper-case hexadecimal digit of a number below 16. -/
def hexDigit (n : Nat) : Char :=
  if n < 10 then Char.ofNat (48 + n) else Char.ofNat (55 + n)

/-- A byte as a percent sign and two digits. -/
def escape (b : UInt8) : List Char :=
  ['%', hexDigit (b.toNat / 16), hexDigit (b.toNat % 16)]

/-- The written form of one byte. -/
def encodeByte (b : UInt8) : List Char :=
  if isUnreserved b then [Char.ofNat b.toNat] else escape b

/-- The written form of a byte sequence. -/
def encodeBytes (bytes : Bytes) : List Char :=
  bytes.flatMap encodeByte

/-- The written form of a text. -/
def encode (s : String) : String :=
  String.ofList (encodeBytes (Utf8.ofString s))

/-- The value of a hexadecimal digit of either case. -/
def hexValue? (c : Char) : Option Nat :=
  if '0' ≤ c ∧ c ≤ '9' then some (c.toNat - 48)
  else if 'A' ≤ c ∧ c ≤ 'F' then some (c.toNat - 55)
  else if 'a' ≤ c ∧ c ≤ 'f' then some (c.toNat - 87)
  else none

/-- Replaces each escape by its byte; anything else stands for its own bytes. -/
def decodeChars : List Char → Bytes
  | '%' :: h :: l :: rest =>
    match hexValue? h, hexValue? l with
    | some high, some low => UInt8.ofNat (high * 16 + low) :: decodeChars rest
    | _, _ => String.utf8EncodeChar '%' ++ decodeChars (h :: l :: rest)
  | c :: rest => String.utf8EncodeChar c ++ decodeChars rest
  | [] => []

/-- The bytes that a written form stands for. -/
def decode (s : String) : Bytes :=
  decodeChars s.toList

end BlockVolume.Text.Percent
