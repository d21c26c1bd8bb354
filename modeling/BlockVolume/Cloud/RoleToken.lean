import BlockVolume.Cloud.Credentials
import BlockVolume.Json.Record
import BlockVolume.Text.Blank
/-!
Documents of the instance metadata service about the instance's role.
-/

namespace BlockVolume.Cloud

open BlockVolume.Text (quote record redacted)

/-- Temporary keys issued for the role of an instance. -/
structure RoleToken where
  id : String
  secret : String
  token : String
  expiration : String
  code : String
  deriving DecidableEq

namespace RoleToken

/-- Reads a token document. -/
def parse (document : String) : Except Json.Error RoleToken := do
  let value ← Json.read (Text.Utf8.ofString document)
  let found ← value.fields
    ["AccessKeyId", "AccessKeySecret", "SecurityToken", "Expiration", "Code"]
  let id ← found.required "AccessKeyId" Json.Value.asText
  let secret ← found.required "AccessKeySecret" Json.Value.asText
  let token ← found.required "SecurityToken" Json.Value.asText
  let expiration ← found.optional "Expiration" Json.Value.asText ""
  let code ← found.optional "Code" Json.Value.asText ""
  return { id, secret, token, expiration, code }

/-- The token was issued. -/
def isIssued (token : RoleToken) : Bool :=
  token.code.isEmpty || token.code == "Success"

/-- The token of a document that issues one. -/
def ofDocument? (document : String) : Option RoleToken :=
  match parse document with
  | .ok token => if token.isIssued then some token else none
  | .error _ => none

/-- The token written out. -/
def describe (token : RoleToken) : String :=
  record "RoleToken"
    [("access_key_id", quote token.id), ("access_key_secret", redacted),
     ("security_token", redacted), ("expiration", quote token.expiration),
     ("code", quote token.code)]

end RoleToken

/-- The name of the role in a role list: its first line that is not blank, trimmed. -/
def firstRole? (roleList : String) : Option String :=
  (((Text.lines roleList.toList).map Text.trimChars).find? (!·.isEmpty)).map String.ofList

end BlockVolume.Cloud
