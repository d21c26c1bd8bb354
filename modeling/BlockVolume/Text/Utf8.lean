/-!
UTF-8: encoding, strict decoding, and lossy decoding.

Both decoders read the same `front` of a byte sequence, so a sequence that decodes strictly decodes
to the same characters lossily. A broken piece is the longest start of a character that the bytes
still allow.
-/

namespace BlockVolume.Text

/-- Raw bytes, as files, pipes and network bodies hold them. -/
abbrev Bytes := List UInt8

namespace Utf8

/-- The bytes of a text. -/
def encode (cs : List Char) : Bytes :=
  cs.flatMap String.utf8EncodeChar

/-- The bytes of a string. -/
def ofString (s : String) : Bytes :=
  encode s.toList

/-- What a byte sequence starts with: a character or a broken piece, with the number of bytes that
belong to it after the first one. -/
inductive Front where
  | char (c : Char) (more : Nat)
  | broken (more : Nat)

/-- Continuation bytes. -/
def isTail (b : UInt8) : Bool := 0x80 ≤ b && b ≤ 0xBF

/-- The second byte a lead byte allows — surrogates, overlong forms and code points past the last
plane are cut off here. -/
def allowsSecond (lead second : UInt8) : Bool :=
  (if lead = 0xE0 then (0xA0 : UInt8) else if lead = 0xF0 then 0x90 else 0x80) ≤ second &&
    second ≤ (if lead = 0xED then (0x9F : UInt8) else if lead = 0xF4 then 0x8F else 0xBF)

/-- The six payload bits of a continuation byte. -/
def bits (b : UInt8) : Nat := b.toNat % 64

/-- Reads the front of `lead :: rest`. -/
def front (lead : UInt8) (rest : Bytes) : Front :=
  if lead < 0x80 then .char (Char.ofNat lead.toNat) 0
  else if 0xC2 ≤ lead && lead ≤ 0xDF then
    match rest with
    | b :: _ =>
      if isTail b then .char (Char.ofNat (lead.toNat % 32 * 64 + bits b)) 1 else .broken 0
    | [] => .broken 0
  else if 0xE0 ≤ lead && lead ≤ 0xEF then
    match rest with
    | b :: c :: _ =>
      if !allowsSecond lead b then .broken 0
      else if isTail c then
        .char (Char.ofNat (lead.toNat % 16 * 4096 + bits b * 64 + bits c)) 2
      else .broken 1
    | [b] => if allowsSecond lead b then .broken 1 else .broken 0
    | [] => .broken 0
  else if 0xF0 ≤ lead && lead ≤ 0xF4 then
    match rest with
    | b :: c :: d :: _ =>
      if !allowsSecond lead b then .broken 0
      else if !isTail c then .broken 1
      else if isTail d then
        .char (Char.ofNat (lead.toNat % 8 * 262144 + bits b * 4096 + bits c * 64 + bits d)) 3
      else .broken 2
    | [b, c] =>
      if !allowsSecond lead b then .broken 0 else if isTail c then .broken 2 else .broken 1
    | [b] => if allowsSecond lead b then .broken 1 else .broken 0
    | [] => .broken 0
  else .broken 0

/-- The characters of well-formed bytes, nothing for any other. -/
def decode? : Bytes → Option (List Char)
  | [] => some []
  | b :: rest =>
    match front b rest with
    | .char c more => (decode? (rest.drop more)).map (c :: ·)
    | .broken _ => none
termination_by bytes => bytes.length
decreasing_by simp only [List.length_drop, List.length_cons]; omega

/-- Decodes any bytes, with one replacement character for each broken piece. -/
def decodeLossy : Bytes → List Char
  | [] => []
  | b :: rest =>
    match front b rest with
    | .char c more => c :: decodeLossy (rest.drop more)
    | .broken more => '\uFFFD' :: decodeLossy (rest.drop more)
termination_by bytes => bytes.length
decreasing_by all_goals simp only [List.length_drop, List.length_cons]; omega

/-- Lossy decoding to a string. -/
def toStringLossy (bytes : Bytes) : String :=
  String.ofList (decodeLossy bytes)

end Utf8
end BlockVolume.Text
