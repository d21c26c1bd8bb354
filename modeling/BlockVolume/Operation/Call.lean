import BlockVolume.Cloud.Client
import BlockVolume.Operation.Error
import BlockVolume.Operation.Policy
/-!
Control-plane calls that are made again.

A call that finds the client at fault is made once more with a refreshed one. A call that finds the
control plane busy is made again after a wait, with a refreshed client, until the attempts of the
policy are used up. Any other answer is final.
-/

namespace BlockVolume.Operation

open BlockVolume.Cloud (ApiError Client CredentialSource Disk)

/-- A step of an operation. -/
abbrev Step := ExceptT OperationError NodeProgram

/-- What an operation works with: credentials, policy, and the request in the words of its errors.
-/
structure Setting where
  source : CredentialSource
  policy : RetryPolicy
  context : Context

/-- The problem of a call that failed for good at attempt number `attempt`. -/
def Problem.ofCall (attempt : Nat) (e : ApiError) : Problem :=
  match e.errorClass with
  | .conflict => .stillBusy attempt e
  | .authentication => .authentication e
  | .transport => .transport e
  | other => .rejected other e

namespace Setting

/-- Ends the operation. -/
def fail {α : Type} (setting : Setting) (problem : Problem) : Step α :=
  throw (.failed setting.context problem)

/-- Takes a mounter's answer; an error ends the operation. -/
def onHost {α : Type} (setting : Setting) (doing : String) :
    Except Mount.MountError α → Step α
  | .ok value => pure value
  | .error e => setting.fail (.host doing e)

/-- Makes a call, and makes it once more with a refreshed client if the client is to blame. -/
def callOnce {α : Type} (setting : Setting) (call : Api → NodeProgram (Except ApiError α))
    (client : Client) : NodeProgram (Client × Except ApiError α) := do
  match ← call client.api with
  | .ok value => return (client, .ok value)
  | .error e =>
    if e.errorClass.blamesClient then
      let client ← client.refresh setting.source
      return (client, ← call client.api)
    else return (client, .error e)

/-- Makes a call with `left` more attempts after this one, the attempt number `attempt`. -/
def callAgain {α : Type} (setting : Setting) (call : Api → NodeProgram (Except ApiError α)) :
    (left attempt : Nat) → Client → Step (Client × α)
  | left, attempt, client => do
    match ← setting.callOnce call client with
    | (client, .ok value) => return (client, value)
    | (client, .error e) =>
      if e.errorClass = .conflict then
        match left with
        | 0 => setting.fail (.ofCall attempt e)
        | left + 1 => do
          (Ask.sleep (setting.policy.backoff attempt)).ask
          let client ← client.refresh setting.source
          callAgain setting call left (attempt + 1) client
      else setting.fail (.ofCall attempt e)

/-- Makes a call until it is answered for good; the client that got the answer goes with it. -/
def call {α : Type} (setting : Setting) (call : Api → NodeProgram (Except ApiError α))
    (client : Client) : Step (Client × α) :=
  setting.callAgain call (setting.policy.maxAttempts.toNat - 1) 1 client

/-- A client for the operation. -/
def connect (setting : Setting) : Step Client := do
  match ← Client.connect setting.source with
  | some client => return client
  | none => setting.fail .noCredentials

/-- Looks the disk up. -/
def describe (setting : Setting) (region : String) (client : Client) : Step (Client × Disk) := do
  let (client, found) ← setting.call
    (fun api => (CloudAsk.describe api region setting.context.disk).ask) client
  match found with
  | some disk => return (client, disk)
  | none => setting.fail (.diskNotFound region)

/-- Looks the disk up until it has `settled`, `left` times at most, the next being look `attempt`.
-/
def watch (setting : Setting) (region expected : String) (settled : Disk → Bool) :
    (left attempt : Nat) → Client → Step (Client × Disk)
  | 0, _, _ => setting.fail (.notSettled expected setting.policy.maxAttempts.toNat)
  | left + 1, attempt, client => do
    let (client, disk) ← setting.describe region client
    if settled disk then return (client, disk)
    else do
      if left ≠ 0 then (Ask.sleep (setting.policy.backoff attempt)).ask
      watch setting region expected settled left (attempt + 1) client

/-- Waits for the disk to settle, as long as the attempts of the policy last. -/
def waitFor (setting : Setting) (region expected : String) (settled : Disk → Bool)
    (client : Client) : Step (Client × Disk) :=
  setting.watch region expected settled setting.policy.maxAttempts.toNat 1 client

end Setting
end BlockVolume.Operation
