/-!
Errors of control-plane calls, and the classes that decide how they are taken.
-/

namespace BlockVolume.Cloud

/-- Why a control-plane call failed: the service refused it, or was not reached. -/
inductive ApiError where
  | service (code message requestId : String)
  | transport (text : String)
  deriving DecidableEq

namespace ApiError

/-- The code of a refusal. -/
def code? : ApiError → Option String
  | .service code _ _ => some code
  | .transport _ => none

/-- The text of an error. -/
def message : ApiError → String
  | .service code message requestId => code ++ ": " ++ message ++ " (request " ++ requestId ++ ")"
  | .transport text => "control plane unreachable: " ++ text

end ApiError

/-- How an error is taken. -/
inductive ErrorClass where | conflict | capability | authentication | transport | unknown
  deriving DecidableEq

/-- Codes of a disk or an instance that is still busy with another change. -/
def conflictCodes : List String :=
  ["InvalidOperation.Conflict", "IncorrectDiskStatus", "IncorrectInstanceStatus",
   "DiskCreatingSnapshot", "Throttling", "ServiceUnavailable", "InternalError"]

/-- Codes of a disk that the instance or the zone cannot take. -/
def capabilityCodes : List String :=
  ["InvalidDataDiskCategory.NotSupported", "InvalidDiskCategory.NotSupported",
   "InvalidZoneId.NotSupported"]

/-- Codes of credentials that are not or no longer good. -/
def authenticationCodes : List String :=
  ["InvalidAccessKeyId.NotFound", "InvalidAccessKeyId.Inactive", "SignatureDoesNotMatch",
   "InvalidSecurityToken.Expired", "InvalidSecurityToken.Malformed",
   "InvalidSecurityToken.MismatchWithAccessKey", "Forbidden.RAM"]

/-- The class of an error: by its code, or `transport` where there is none. -/
def ApiError.errorClass (e : ApiError) : ErrorClass :=
  match e.code? with
  | none => .transport
  | some code =>
    if conflictCodes.contains code then .conflict
    else if capabilityCodes.contains code then .capability
    else if authenticationCodes.contains code then .authentication
    else .unknown

namespace ErrorClass

/-- The name of a class. -/
def name : ErrorClass → String
  | .conflict => "Conflict"
  | .capability => "Capability"
  | .authentication => "Authentication"
  | .transport => "Transport"
  | .unknown => "Unknown"

/-- The call may be made again after a while. -/
def isRetryable (c : ErrorClass) : Bool := c == .conflict

/-- The client is to blame, and a fresh one may do better. -/
def blamesClient : ErrorClass → Bool
  | .authentication | .transport => true
  | _ => false

end ErrorClass
end BlockVolume.Cloud
