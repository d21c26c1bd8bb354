import BlockVolume.Digest.Sha1
/-!
HMAC over SHA-1: a keyed digest for keys and messages of any length.
-/

namespace BlockVolume.Digest

open BlockVolume.Text (Bytes)

/-- A key as one block of 64 bytes — a longer key stands for its digest. -/
def keyBlock (key : Bytes) : Bytes :=
  let short := if key.length ≤ 64 then key else sha1 key
  short ++ List.replicate (64 - short.length) 0

/-- The digest of the message under the inner key, digested again under the outer key. -/
def hmacSha1 (key message : Bytes) : Bytes :=
  let block := keyBlock key
  sha1 (block.map (· ^^^ 0x5C) ++ sha1 (block.map (· ^^^ 0x36) ++ message))

end BlockVolume.Digest
