import BlockVolume.Operation.Attach
import BlockVolume.Operation.Detach
import BlockVolume.Operation.Outcome
/-!
Running an operation to its outcome.
-/

namespace BlockVolume.Operation

open BlockVolume.Cloud (CredentialSource)
open BlockVolume.Text (record)
open BlockVolume.Volume (Request)

/-- What attaches and detaches disks: where credentials come from, and how often to try. -/
structure Attacher where
  source : CredentialSource
  policy : RetryPolicy

/-- The policy written out. -/
def RetryPolicy.describe (policy : RetryPolicy) : String :=
  record "RetryPolicy"
    [("max_attempts", toString policy.maxAttempts.toNat),
     ("initial_backoff_ms", toString policy.initialBackoffMs.toNat),
     ("max_backoff_ms", toString policy.maxBackoffMs.toNat)]

namespace Attacher

/-- The attacher written out. -/
def describe (attacher : Attacher) : String :=
  record "Attacher" [("policy", attacher.policy.describe)]

/-- The setting of an action on a request. -/
def setting (attacher : Attacher) (action : Action) (request : Request) : Setting :=
  ⟨attacher.source, attacher.policy, ⟨action, request.disk, request.node⟩⟩

/-- Does an action. -/
def perform (attacher : Attacher) (action : Action) (request : Request) (target : Path) :
    Step Unit :=
  match action with
  | .attach => attach (attacher.setting .attach request) request target
  | .detach => detach (attacher.setting .detach request) request target

/-- Does an action to its outcome. The caller holds the lock of the request. -/
def execute (attacher : Attacher) (action : Action) (request : Request) (target : Path) :
    NodeProgram Outcome := do
  return .ofResult (← (attacher.perform action request target).run)

end Attacher
end BlockVolume.Operation
