import BlockVolume.Ask
import BlockVolume.Text.Quoted
import BlockVolume.Volume.Request
/-!
Errors of attaching and detaching, and what they come to for the caller.

An error tells which operation on which disk and node it ended. Its kind and whether it may be
retried depend on how it arose alone.
-/

namespace BlockVolume.Operation

open BlockVolume.Cloud (ApiError ErrorClass)
open BlockVolume.Mount (MountError)
open BlockVolume.Volume (ValidationError)

/-- What is done to a disk. -/
inductive Action where | attach | detach
  deriving DecidableEq

/-- The word for an action. -/
def Action.name : Action → String
  | .attach => "attach"
  | .detach => "detach"

/-- The operation an error ended. -/
structure Context where
  action : Action
  disk : String
  node : String
  deriving DecidableEq

/-- The operation in words. -/
def Context.describe (context : Context) : String :=
  context.action.name ++ " of disk " ++ context.disk ++ " on node " ++ context.node

/-- How an operation went wrong. -/
inductive Problem where
  /-- The control plane was busy at every attempt. -/
  | stillBusy (attempts : Nat) (source : ApiError)
  | rejected (errorClass : ErrorClass) (source : ApiError)
  | authentication (source : ApiError)
  | transport (source : ApiError)
  | noCredentials
  | diskNotFound (region : String)
  | notSettled (expected : String) (attempts : Nat)
  | noDevice
  | host (doing : String) (source : MountError)
  | targetBusy (target device : Path)
  | targetNotEmpty (target : Path)
  | deviceBusy (mounts : List Path)
  deriving DecidableEq

/-- Why an operation failed. -/
inductive OperationError where
  | validation (source : ValidationError)
  | failed (context : Context) (problem : Problem)
  deriving DecidableEq

/-- The kinds of errors that callers tell apart. -/
inductive ErrorKind where
  | validation | conflict | timeout | capability | authentication | transport | credentials
  | notFound | hostIo | deviceBusy | unknown
  deriving DecidableEq

/-- The name of a kind. -/
def ErrorKind.name : ErrorKind → String
  | .validation => "Validation"
  | .conflict => "Conflict"
  | .timeout => "Timeout"
  | .capability => "Capability"
  | .authentication => "Authentication"
  | .transport => "Transport"
  | .credentials => "Credentials"
  | .notFound => "NotFound"
  | .hostIo => "HostIo"
  | .deviceBusy => "DeviceBusy"
  | .unknown => "Unknown"

namespace Problem

/-- What a problem adds to the operation in words. -/
def describe : Problem → String
  | .stillBusy attempts source =>
    " still failing after " ++ toString attempts ++ " attempts: " ++ source.message
  | .rejected _ source => " rejected: " ++ source.message
  | .authentication source => " failed authentication after credential refresh: " ++ source.message
  | .transport source =>
    ": control plane still unreachable after client refresh: " ++ source.message
  | .noCredentials => ": no usable credentials"
  | .diskNotFound region => ": disk not found in region " ++ region
  | .notSettled expected attempts =>
    ": disk did not become " ++ expected ++ " after " ++ toString attempts ++ " checks"
  | .noDevice => ": control plane reports no device for the disk"
  | .host doing source => ": " ++ doing ++ " failed: " ++ source.message
  | .targetBusy target device => ": " ++ target.text ++ " already holds " ++ device.text
  | .targetNotEmpty target => ": mount target " ++ target.text ++ " is not empty"
  | .deviceBusy mounts =>
    ": device still mounted at " ++
      Text.bracketed (mounts.map fun mount => Text.quote mount.text)

/-- The kind of a problem. -/
def kind : Problem → ErrorKind
  | .stillBusy _ _ => .conflict
  | .notSettled _ _ => .timeout
  | .rejected .capability _ => .capability
  | .rejected _ _ => .unknown
  | .authentication _ => .authentication
  | .transport _ => .transport
  | .noCredentials => .credentials
  | .diskNotFound _ => .notFound
  | .noDevice | .host _ _ => .hostIo
  | .targetBusy _ _ | .targetNotEmpty _ | .deviceBusy _ => .deviceBusy

/-- The whole operation may do better later. -/
def isRetryable : Problem → Bool
  | .stillBusy _ _ | .notSettled _ _ | .transport _ => true
  | _ => false

end Problem

namespace OperationError

/-- The text of an error. -/
def message : OperationError → String
  | .validation source => source.message
  | .failed context problem => context.describe ++ problem.describe

/-- The kind of an error. -/
def kind : OperationError → ErrorKind
  | .validation _ => .validation
  | .failed _ problem => problem.kind

/-- The whole operation may do better later. -/
def isRetryable : OperationError → Bool
  | .validation _ => false
  | .failed _ problem => problem.isRetryable

end OperationError
end BlockVolume.Operation
