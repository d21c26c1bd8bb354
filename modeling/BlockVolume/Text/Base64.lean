import BlockVolume.Text.Utf8
/-!
Base64 with the standard alphabet: three bytes make four characters, and `=` fills the last group.
-/

namespace BlockVolume.Text.Base64

/-- The character of a six-bit group: upper case, lower case, digits, `+`, `/`. -/
def digit (n : Nat) : Char :=
  if n < 26 then Char.ofNat (65 + n)
  else if n < 52 then Char.ofNat (71 + n)
  else if n < 62 then Char.ofNat (n - 4)
  else if n = 62 then '+'
  else '/'

/-- The characters of a byte sequence, group by group. -/
def encodeBytes : Bytes → List Char
  | a :: b :: c :: rest =>
    let n := a.toNat * 65536 + b.toNat * 256 + c.toNat
    digit (n / 262144) :: digit (n / 4096 % 64) :: digit (n / 64 % 64) :: digit (n % 64)
      :: encodeBytes rest
  | [a, b] =>
    let n := a.toNat * 1024 + b.toNat * 4
    [digit (n / 4096), digit (n / 64 % 64), digit (n % 64), '=']
  | [a] => [digit (a.toNat / 4), digit (a.toNat % 4 * 16), '=', '=']
  | [] => []

/-- The written form of a byte sequence. -/
def encode (bytes : Bytes) : String :=
  String.ofList (encodeBytes bytes)

end BlockVolume.Text.Base64
