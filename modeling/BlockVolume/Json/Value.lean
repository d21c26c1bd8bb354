import BlockVolume.Text.Utf8
/-!
JSON documents as read from bytes.

Strings keep the bytes between their quotes and are unescaped only where their text is asked for,
and numbers keep their literal: a member that nobody asks for is checked for its form and nothing
else.
-/

namespace BlockVolume.Json

open BlockVolume.Text (Bytes)

/-- A JSON value. -/
inductive Value where
  | null
  | bool (b : Bool)
  | number (literal : Bytes)
  | string (raw : Bytes)
  | array (items : List Value)
  | object (members : List (Bytes × Value))

/-- Why bytes are no document, or a document is not what was asked for. -/
inductive Error where
  | unexpectedEnd
  | unexpectedByte (b : UInt8)
  | trailingBytes
  | brokenString
  | wrongType (expected : String)
  | missingField (name : String)
  | duplicateField (name : String)
  | tooManyItems

/-- The text of an error. -/
def Error.message : Error → String
  | .unexpectedEnd => "unexpected end of the document"
  | .unexpectedByte b => "unexpected byte " ++ toString b.toNat
  | .trailingBytes => "bytes after the document"
  | .brokenString => "a string that is no text"
  | .wrongType expected => "expected " ++ expected
  | .missingField name => "missing field " ++ name
  | .duplicateField name => "duplicate field " ++ name
  | .tooManyItems => "more items than fields"

/-- The value of a hexadecimal digit byte. -/
def hexValue? (b : UInt8) : Option Nat :=
  if 0x30 ≤ b && b ≤ 0x39 then some (b.toNat - 48)
  else if 0x41 ≤ b && b ≤ 0x46 then some (b.toNat - 55)
  else if 0x61 ≤ b && b ≤ 0x66 then some (b.toNat - 87)
  else none

/-- The 16-bit unit of four hexadecimal digits. -/
def unit? (a b c d : UInt8) : Option Nat :=
  match hexValue? a, hexValue? b, hexValue? c, hexValue? d with
  | some w, some x, some y, some z => some (w * 4096 + x * 256 + y * 16 + z)
  | _, _, _, _ => none

/-- The byte that a one-letter escape stands for. -/
def shortEscape? (b : UInt8) : Option UInt8 :=
  if b == 0x22 || b == 0x5C || b == 0x2F then some b
  else if b == 0x62 then some 0x08
  else if b == 0x66 then some 0x0C
  else if b == 0x6E then some 0x0A
  else if b == 0x72 then some 0x0D
  else if b == 0x74 then some 0x09
  else none

/-- Replaces the escapes of a raw string; a surrogate must be half of a pair. -/
def unescapeBytes? : Bytes → Option Bytes
  | 0x5C :: 0x75 :: a :: b :: c :: d :: rest =>
    match unit? a b c d with
    | none => none
    | some high =>
      if 0xD800 ≤ high && high ≤ 0xDBFF then
        match rest with
        | 0x5C :: 0x75 :: e :: f :: g :: h :: rest =>
          match unit? e f g h with
          | none => none
          | some low =>
            if 0xDC00 ≤ low && low ≤ 0xDFFF then
              (unescapeBytes? rest).map
                (String.utf8EncodeChar
                  (Char.ofNat (0x10000 + (high - 0xD800) * 1024 + (low - 0xDC00))) ++ ·)
            else none
        | _ => none
      else if 0xDC00 ≤ high && high ≤ 0xDFFF then none
      else (unescapeBytes? rest).map (String.utf8EncodeChar (Char.ofNat high) ++ ·)
  | 0x5C :: b :: rest =>
    match shortEscape? b with
    | none => none
    | some byte => (unescapeBytes? rest).map (byte :: ·)
  | b :: rest => if b == 0x5C then none else (unescapeBytes? rest).map (b :: ·)
  | [] => some []

/-- The text of a raw string. -/
def unescape? (raw : Bytes) : Option String :=
  (unescapeBytes? raw).bind fun bytes => (Text.Utf8.decode? bytes).map String.ofList

/-- The value of a literal that is digits only. -/
def natural? (literal : Bytes) : Option Nat :=
  if literal.all fun b => 0x30 ≤ b && b ≤ 0x39 then
    some (literal.foldl (fun n b => n * 10 + (b.toNat - 48)) 0)
  else none

end BlockVolume.Json
