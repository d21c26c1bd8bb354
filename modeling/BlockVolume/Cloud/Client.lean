import BlockVolume.Ask
import BlockVolume.Cloud.RoleToken
/-!
Finding credentials, and keeping a client that fits them.

Credentials come whole from the first source that has them: the environment, the configuration, the
role of the instance. A client never changes; a refresh gives another one or the same.
-/

namespace BlockVolume.Cloud

open BlockVolume.Text (record)

/-- The environment variable with the id of an access key. -/
def idVariable : String := "ACCESS_KEY_ID"

/-- The environment variable with the secret of an access key. -/
def secretVariable : String := "ACCESS_KEY_SECRET"

/-- The metadata resource that lists the roles of the instance. -/
def roleResource : String := "ram/security-credentials/"

/-- The sources of credentials on the node itself. -/
structure CredentialSource where
  environment : List (String × String)
  configured : Option Credentials

namespace CredentialSource

/-- Configured keys count only as a whole pair. -/
def ofKeys (environment : List (String × String)) (id secret : String) : CredentialSource :=
  let credentials := Credentials.lasting id secret
  ⟨environment, if credentials.isEmpty then none else some credentials⟩

/-- The credentials that need no metadata. -/
def localCredentials? (source : CredentialSource) : Option Credentials :=
  let value name := (source.environment.lookup name).getD ""
  let credentials := Credentials.lasting (value idVariable) (value secretVariable)
  if credentials.isEmpty then source.configured else some credentials

end CredentialSource

/-- The name of the role of the instance. -/
def roleName : NodeProgram (Option String) := do
  return ((← (CloudAsk.metadata roleResource).ask)).bind firstRole?

/-- The token of a role. -/
def roleToken (role : String) : NodeProgram (Option RoleToken) := do
  return ((← (CloudAsk.metadata (roleResource ++ role)).ask)).bind RoleToken.ofDocument?

/-- The credentials of a token that has all its parts. -/
def RoleToken.credentials? (token : RoleToken) : Option Credentials :=
  let credentials := Credentials.temporary token.id token.secret token.token
  if credentials.isEmpty || token.token.isEmpty then none else some credentials

/-- The credentials of the role of the instance. -/
def roleCredentials : NodeProgram (Option Credentials) := do
  match ← roleName with
  | none => return none
  | some role => return (← roleToken role).bind RoleToken.credentials?

/-- The first credentials there are, or none. -/
def CredentialSource.resolve (source : CredentialSource) : NodeProgram Credentials :=
  match source.localCredentials? with
  | some credentials => return credentials
  | none => return (← roleCredentials).getD Credentials.none

/-- A control-plane client, with the credentials it was built for. -/
structure Client where
  api : Api
  credentials : Credentials
  deriving DecidableEq

namespace Client

/-- The client written out. -/
def describe (client : Client) : String :=
  record "DiskClient" [("credentials", client.credentials.describe)]

/-- Builds a client, unless the credentials are empty or refused. -/
def build (credentials : Credentials) : NodeProgram (Option Client) := do
  if credentials.isEmpty then return none
  else return (← (CloudAsk.client credentials).ask).map (⟨·, credentials⟩)

/-- A client for fresh credentials. -/
def connect (source : CredentialSource) : NodeProgram (Option Client) := do
  build (← source.resolve)

/-- Another client for fresh credentials where the old ones are temporary and the new ones serve,
and the same client otherwise. -/
def refresh (source : CredentialSource) (client : Client) : NodeProgram Client := do
  if client.credentials.isTemporary then
    return (← build (← source.resolve)).getD client
  else return client

end Client

/-- What is written out for a connector. -/
def connectorText : String := record "CloudConnector" []

end BlockVolume.Cloud
