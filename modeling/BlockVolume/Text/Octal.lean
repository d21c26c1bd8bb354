import BlockVolume.Text.Utf8
/-!
Octal escapes in mount paths.

The kernel writes a blank, tab, line feed or backslash in a path as a backslash and three octal
digits. Reading takes every escape whose value is a byte — a plus sign may stand for the first
digit — and leaves any other backslash alone.
-/

namespace BlockVolume.Text.Octal

/-- The characters that the kernel writes as escapes. -/
def isEscaped (c : Char) : Bool :=
  c == ' ' || c == '\t' || c == '\n' || c == '\\'

/-- A backslash and three octal digits. -/
def escape (n : Nat) : List Char :=
  ['\\', Char.ofNat (48 + n / 64), Char.ofNat (48 + n / 8 % 8), Char.ofNat (48 + n % 8)]

/-- A path as the kernel writes it. -/
def encode (cs : List Char) : List Char :=
  cs.flatMap fun c => if isEscaped c then escape c.toNat else [c]

/-- The value of an octal digit. -/
def digit? (c : Char) : Option Nat :=
  if '0' ≤ c ∧ c ≤ '7' then some (c.toNat - 48) else none

/-- The byte that three characters after a backslash stand for — a plus in front counts as zero. -/
def value? (a b c : Char) : Option UInt8 :=
  match (if a = '+' then some 0 else digit? a), digit? b, digit? c with
  | some x, some y, some z =>
    let n := x * 64 + y * 8 + z
    if n ≤ 255 then some (UInt8.ofNat n) else none
  | _, _, _ => none

/-- The bytes of a path as the kernel wrote it. -/
def decodeBytes : List Char → Bytes
  | '\\' :: a :: b :: c :: rest =>
    match value? a b c with
    | some byte => byte :: decodeBytes rest
    | none => String.utf8EncodeChar '\\' ++ decodeBytes (a :: b :: c :: rest)
  | c :: rest => String.utf8EncodeChar c ++ decodeBytes rest
  | [] => []

/-- A path read back, lossily where its bytes are no text. -/
def decode (cs : List Char) : List Char :=
  Utf8.decodeLossy (decodeBytes cs)

end BlockVolume.Text.Octal
