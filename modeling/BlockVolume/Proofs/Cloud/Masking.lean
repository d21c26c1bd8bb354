import BlockVolume.Cloud.Client
import BlockVolume.Config
import Mathlib
/-!
Secrets left out.

Masking puts the same star in the place of every secret that is there, and leaves the rest alone: in
credentials, in the sources they come from, in role documents as they are sent, and in the
configuration. Two values with the same mask differ in the texts of secrets only. Whether credentials
are there and whether they expire, what is written out of them, and how a role document is read do not
depend on more than the mask.
-/

namespace BlockVolume

open BlockVolume.Text (Bytes)

/-- A star, in the place of a secret that is there. -/
def hidden (secret : String) : String := if secret.isEmpty then "" else "*"

@[simp] theorem isEmpty_hidden (secret : String) : (hidden secret).isEmpty = secret.isEmpty := by
  rw [hidden]
  split
  case isTrue empty => exact empty.symm ▸ rfl
  case isFalse some => exact (Bool.eq_false_iff.mpr some).symm ▸ rfl

/-! ### Documents -/

namespace Json

/-- A string as it is written, with its text hidden. What is no string, or one that is no text, is left
alone. -/
def Value.hidden : Value → Value
  | .string raw =>
    match unescape? raw with
    | some text => .string (if text.isEmpty then [] else [0x2A])
    | none => .string raw
  | value => value

theorem Value.asText_hidden (value : Value) :
    value.hidden.asText = value.asText.map BlockVolume.hidden := by
  cases value with
  | string raw =>
    cases h : unescape? raw with
    | none => simp [hidden, asText, h, Except.map]
    | some text =>
      have none : unescape? [] = some "" := by cbv
      have star : unescape? [0x2A] = some "*" := by cbv
      simp only [hidden, asText, h, Except.map, BlockVolume.hidden]
      by_cases empty : text.isEmpty = true
      · simp only [if_pos empty, none]
      · simp only [if_neg empty, star]
  | _ => rfl

variable {names secrets : List String}

/-- The value of a field, hidden if the field is a secret. -/
def maskField (secrets : List String) (name : String) (value : Value) : Value :=
  if secrets.contains name then value.hidden else value

/-- A member as it is written, with its value hidden if it names a secret. -/
def maskMember (secrets : List String) (member : Bytes × Value) : Bytes × Value :=
  match unescape? member.1 with
  | some name => (member.1, maskField secrets name member.2)
  | none => member

/-- The items of a record that is written as an array, with the secrets among them hidden. -/
def maskItems (secrets : List String) : (names : List String) → List Value → List Value
  | name :: names, item :: items => maskField secrets name item :: maskItems secrets names items
  | _, items => items

/-- A record with the given field names, its secrets hidden in either way of writing it. -/
def Value.maskRecord (names secrets : List String) : Value → Value
  | .object members => .object (members.map (maskMember secrets))
  | .array items => .array (maskItems secrets names items)
  | value => value

/-- The fields found for a record, with the secrets hidden. -/
def Found.mask (secrets : List String) (found : Found) : Found :=
  found.map fun (name, value) => (name, maskField secrets name value)

theorem knownMembers_mask (seen : List String) (members : List (Bytes × Value)) :
    knownMembers names seen (members.map (maskMember secrets)) =
      (knownMembers names seen members).map (Found.mask secrets) := by
  induction members generalizing seen with
  | nil => rfl
  | cons member members ih =>
    obtain ⟨raw, value⟩ := member
    cases h : unescape? raw with
    | none => simp [maskMember, knownMembers, h, Except.map]
    | some name =>
      simp only [List.map_cons, maskMember, knownMembers, h]
      split
      · exact ih seen
      · split
        · rfl
        · rw [ih]
          cases knownMembers names (name :: seen) members <;> rfl

theorem namedItems_mask (names : List String) (items : List Value) :
    namedItems names (maskItems secrets names items) =
      (namedItems names items).map (Found.mask secrets) := by
  induction items generalizing names with
  | nil => cases names <;> rfl
  | cons item items ih =>
    cases names with
    | nil => rfl
    | cons name names =>
      rw [maskItems, namedItems, namedItems, ih]
      cases namedItems names items <;> rfl

/-- What is found in a record with its secrets hidden is what is found in it, with them hidden. -/
theorem Value.fields_maskRecord (value : Value) :
    (value.maskRecord names secrets).fields names =
      (value.fields names).map (Found.mask secrets) := by
  cases value with
  | object members => exact knownMembers_mask [] members
  | array items => exact namedItems_mask names items
  | _ => rfl

theorem Found.lookup_mask (found : Found) (name : String) :
    List.lookup name (found.mask secrets) = (found.lookup name).map (maskField secrets name) := by
  induction found with
  | nil => rfl
  | cons field found ih =>
    obtain ⟨other, value⟩ := field
    rw [mask, List.map_cons, List.lookup_cons, List.lookup_cons]
    split
    case h_1 own =>
      rw [← beq_iff_eq.mp own]
      rfl
    case h_2 => exact ih

variable {name : String} {α : Type}

/-- A field that is no secret is read as before. -/
theorem Found.required_mask (found : Found) (plain : secrets.contains name = false)
    (read : Value → Except Error α) :
    (found.mask secrets).required name read = found.required name read := by
  rw [required, required, lookup_mask]
  cases found.lookup name with
  | none => rfl
  | some value => simp only [Option.map, maskField, plain, Bool.false_eq_true, if_false]

theorem Found.optional_mask (found : Found) (plain : secrets.contains name = false)
    (read : Value → Except Error α) (default : α) :
    (found.mask secrets).optional name read default = found.optional name read default := by
  rw [optional, optional, lookup_mask]
  cases found.lookup name with
  | none => rfl
  | some value => simp only [Option.map, maskField, plain, Bool.false_eq_true, if_false]

/-- A secret is read as what it was, hidden. -/
theorem Found.required_mask_secret (found : Found) (secret : secrets.contains name = true) :
    (found.mask secrets).required name Value.asText =
      (found.required name Value.asText).map BlockVolume.hidden := by
  rw [required, required, lookup_mask]
  cases found.lookup name with
  | none => rfl
  | some value =>
    simp only [Option.map, maskField, secret, if_true]
    exact value.asText_hidden

end Json

namespace Cloud

/-! ### Credentials -/

namespace Credentials

/-- Credentials with their secrets hidden. -/
def masked (credentials : Credentials) : Credentials :=
  ⟨credentials.id, hidden credentials.secret, credentials.token.map hidden⟩

variable (credentials : Credentials)

@[simp] theorem isEmpty_masked : credentials.masked.isEmpty = credentials.isEmpty := by
  simp [masked, isEmpty]

@[simp] theorem isTemporary_masked : credentials.masked.isTemporary = credentials.isTemporary := by
  simp [masked, isTemporary]

/-- What is written out of credentials shows no secret. -/
@[simp] theorem describe_masked : credentials.masked.describe = credentials.describe := by
  cases h : credentials.token <;> simp [masked, describe, h]

end Credentials

/-- A client with the secrets of its credentials hidden. -/
def Client.masked (client : Client) : Client := ⟨client.api, client.credentials.masked⟩

theorem Client.masked_eq_iff {client client' : Client} :
    client.masked = client'.masked ↔
      client.api = client'.api ∧ client.credentials.masked = client'.credentials.masked := by
  simp [masked]

@[simp] theorem Client.describe_masked (client : Client) :
    client.masked.describe = client.describe := by
  simp [masked, describe]

namespace RoleToken

/-- A token with its secrets hidden. -/
def masked (token : RoleToken) : RoleToken :=
  { token with secret := hidden token.secret, token := hidden token.token }

variable (token : RoleToken)

@[simp] theorem describe_masked : token.masked.describe = token.describe := rfl

theorem credentials?_masked :
    token.masked.credentials? = token.credentials?.map Credentials.masked := by
  have same : (Credentials.temporary token.masked.id token.masked.secret token.masked.token) =
      (Credentials.temporary token.id token.secret token.token).masked := rfl
  rw [credentials?, credentials?, same]
  simp only [Credentials.isEmpty_masked, masked, isEmpty_hidden]
  split <;> rfl

/-! ### Role documents -/

/-- The fields of a token document. -/
def fieldNames : List String :=
  ["AccessKeyId", "AccessKeySecret", "SecurityToken", "Expiration", "Code"]

/-- Those among them that are secrets. -/
def secretNames : List String := ["AccessKeySecret", "SecurityToken"]

/-- The token in a JSON value. -/
def ofValue (value : Json.Value) : Except Json.Error RoleToken := do
  let found ← value.fields fieldNames
  let id ← found.required "AccessKeyId" Json.Value.asText
  let secret ← found.required "AccessKeySecret" Json.Value.asText
  let token ← found.required "SecurityToken" Json.Value.asText
  let expiration ← found.optional "Expiration" Json.Value.asText ""
  let code ← found.optional "Code" Json.Value.asText ""
  return { id, secret, token, expiration, code }

theorem parse_eq (document : String) :
    parse document = Json.read (Text.Utf8.ofString document) >>= ofValue := rfl

theorem ofValue_maskRecord (value : Json.Value) :
    ofValue (value.maskRecord fieldNames secretNames) = (ofValue value).map masked := by
  rw [ofValue, ofValue, Json.Value.fields_maskRecord]
  cases value.fields fieldNames with
  | error e => rfl
  | ok found =>
    simp only [Except.map, bind, Except.bind, pure, Except.pure]
    rw [found.required_mask (by decide), found.required_mask_secret (by decide),
      found.required_mask_secret (by decide), found.optional_mask (by decide),
      found.optional_mask (by decide)]
    rcases found.required "AccessKeyId" Json.Value.asText with e | id
    · rfl
    rcases found.required "AccessKeySecret" Json.Value.asText with e | secret
    · rfl
    rcases found.required "SecurityToken" Json.Value.asText with e | token
    · rfl
    rcases found.optional "Expiration" Json.Value.asText "" with e | expiration
    · rfl
    rcases found.optional "Code" Json.Value.asText "" with e | code <;> rfl

/-- A token document with its secrets hidden, if it is a JSON document. -/
def maskedDocument (document : String) : Option Json.Value :=
  (Json.read (Text.Utf8.ofString document)).toOption.map (·.maskRecord fieldNames secretNames)

/-- The token in a document is known from the mask, but for its secrets. -/
theorem map_masked_parse (document : String) :
    (parse document).toOption.map masked =
      (maskedDocument document).bind fun value => (ofValue value).toOption := by
  rw [parse_eq, maskedDocument]
  cases Json.read (Text.Utf8.ofString document) with
  | error e => rfl
  | ok value =>
    change (ofValue value).toOption.map masked =
      (ofValue (value.maskRecord fieldNames secretNames)).toOption
    rw [ofValue_maskRecord]
    cases ofValue value <;> rfl

theorem ofDocument?_eq (document : String) :
    ofDocument? document = (parse document).toOption.filter isIssued := by
  rw [ofDocument?]
  cases parse document with
  | error e => rfl
  | ok token => rfl

theorem map_masked_ofDocument? (document : String) :
    (ofDocument? document).map masked = ((parse document).toOption.map masked).filter isIssued := by
  rw [ofDocument?_eq, Option.filter_map]
  rfl

variable {document document' : String}

theorem map_masked_parse_congr (same : maskedDocument document = maskedDocument document') :
    (parse document).toOption.map masked = (parse document').toOption.map masked := by
  rw [map_masked_parse, map_masked_parse, same]

theorem map_masked_ofDocument?_congr (same : maskedDocument document = maskedDocument document') :
    (ofDocument? document).map masked = (ofDocument? document').map masked := by
  rw [map_masked_ofDocument?, map_masked_ofDocument?, map_masked_parse_congr same]

end RoleToken

/-! ### Sources -/

/-- An environment with the secret in it hidden. -/
def maskedEnvironment (environment : List (String × String)) : List (String × String) :=
  environment.map fun (name, value) => (name, if name = secretVariable then hidden value else value)

theorem lookup_maskedEnvironment (environment : List (String × String)) (name : String) :
    (maskedEnvironment environment).lookup name =
      (environment.lookup name).map fun value =>
        if name = secretVariable then hidden value else value := by
  induction environment with
  | nil => rfl
  | cons entry environment ih =>
    obtain ⟨other, value⟩ := entry
    rw [maskedEnvironment, List.map_cons, List.lookup_cons, List.lookup_cons]
    split
    case h_1 own =>
      rw [← beq_iff_eq.mp own]
      rfl
    case h_2 => exact ih

namespace CredentialSource

/-- A source with its secrets hidden. -/
def masked (source : CredentialSource) : CredentialSource :=
  ⟨maskedEnvironment source.environment, source.configured.map Credentials.masked⟩

theorem localCredentials?_masked (source : CredentialSource) :
    source.masked.localCredentials? = source.localCredentials?.map Credentials.masked := by
  have id : ((maskedEnvironment source.environment).lookup idVariable).getD "" =
      (source.environment.lookup idVariable).getD "" := by
    have other : idVariable ≠ secretVariable := by decide
    simp [lookup_maskedEnvironment, other]
  have secret : ((maskedEnvironment source.environment).lookup secretVariable).getD "" =
      hidden ((source.environment.lookup secretVariable).getD "") := by
    rw [lookup_maskedEnvironment]
    cases source.environment.lookup secretVariable with
    | none => rfl
    | some value => simp
  have found : Credentials.lasting
        (((maskedEnvironment source.environment).lookup idVariable).getD "")
        (((maskedEnvironment source.environment).lookup secretVariable).getD "") =
      (Credentials.lasting ((source.environment.lookup idVariable).getD "")
        ((source.environment.lookup secretVariable).getD "")).masked := by
    rw [id, secret]
    rfl
  simp only [localCredentials?, masked, found, Credentials.isEmpty_masked]
  split <;> rfl

theorem masked_ofKeys (environment : List (String × String)) (id secret : String) :
    (ofKeys environment id secret).masked =
      ofKeys (maskedEnvironment environment) id (hidden secret) := by
  have same : Credentials.lasting id (hidden secret) = (Credentials.lasting id secret).masked := rfl
  simp only [ofKeys, masked, same, Credentials.isEmpty_masked]
  split <;> rfl

end CredentialSource
end Cloud

/-! ### Configuration -/

/-- Shared options with the secret hidden. -/
def GlobalOptions.masked (options : GlobalOptions) : GlobalOptions :=
  { options with accessKeySecret := hidden options.accessKeySecret }

/-- A configuration with the secret hidden. -/
def Config.masked (config : Config) : Config := { config with shared := config.shared.masked }

/-- What is written out of a configuration shows no secret. -/
@[simp] theorem Config.describe_masked (config : Config) :
    config.masked.describe = config.describe := rfl

/-- A service with the secrets of its sources hidden. -/
def Node.Service.masked (service : Node.Service) : Node.Service :=
  { service with attacher := { service.attacher with source := service.attacher.source.masked } }

theorem Config.masked_service (config : Config) (environment : List (String × String)) :
    (config.service environment).masked =
      config.masked.service (Cloud.maskedEnvironment environment) := by
  simp only [service, Node.Service.masked, Cloud.CredentialSource.masked_ofKeys]
  rfl

end BlockVolume
