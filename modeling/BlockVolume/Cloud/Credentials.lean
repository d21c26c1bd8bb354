import BlockVolume.Text.Quoted
/-!
Access keys of the control plane. Nothing written out ever shows a secret or a session token.
-/

namespace BlockVolume.Cloud

open BlockVolume.Text (quote record redacted)

/-- An access key pair, with a session token if it is a temporary one. -/
structure Credentials where
  id : String
  secret : String
  token : Option String
  deriving DecidableEq

namespace Credentials

/-- No credentials. -/
def none : Credentials := ⟨"", "", .none⟩

/-- A lasting key pair. -/
def lasting (id secret : String) : Credentials := ⟨id, secret, .none⟩

/-- A temporary key pair with its session token. -/
def temporary (id secret token : String) : Credentials := ⟨id, secret, some token⟩

/-- A part of the pair is missing. -/
def isEmpty (credentials : Credentials) : Bool :=
  credentials.id.isEmpty || credentials.secret.isEmpty

/-- The credentials expire. -/
def isTemporary (credentials : Credentials) : Bool := credentials.token.isSome

/-- The credentials written out. -/
def describe (credentials : Credentials) : String :=
  record "Credentials"
    [("access_key_id", quote credentials.id), ("access_key_secret", redacted),
     ("session_token",
      match credentials.token with
      | some _ => "Some(" ++ redacted ++ ")"
      | .none => "None")]

end Credentials
end BlockVolume.Cloud
