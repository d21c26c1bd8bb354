import BlockVolume.Operation.Error
/-!
Outcomes of operations, and the status codes that callers of the node get.
-/

namespace BlockVolume.Operation

open BlockVolume.Volume (ValidationError)

/-- The codes of a status. -/
inductive Code where
  | ok | unknown | invalidArgument | notFound | failedPrecondition | aborted | unavailable
  | internal | unauthenticated
  deriving DecidableEq

/-- The name of a code. -/
def Code.name : Code → String
  | .ok => "Ok"
  | .unknown => "Unknown"
  | .invalidArgument => "InvalidArgument"
  | .notFound => "NotFound"
  | .failedPrecondition => "FailedPrecondition"
  | .aborted => "Aborted"
  | .unavailable => "Unavailable"
  | .internal => "Internal"
  | .unauthenticated => "Unauthenticated"

/-- A refusal: a code other than `ok`, and why. -/
structure Status where
  code : Code
  message : String
  deriving DecidableEq

/-- What an operation came to. -/
inductive Outcome where
  | success
  | retryable (kind : ErrorKind) (detail : String)
  | fatal (kind : ErrorKind) (detail : String)
  deriving DecidableEq

/-- The code of an error that may be retried. -/
def ErrorKind.retryableCode : ErrorKind → Code
  | .timeout | .transport => .unavailable
  | _ => .aborted

/-- The code of an error that is final. -/
def ErrorKind.fatalCode : ErrorKind → Code
  | .validation => .invalidArgument
  | .capability | .credentials | .deviceBusy => .failedPrecondition
  | .authentication => .unauthenticated
  | .notFound => .notFound
  | .conflict => .aborted
  | .timeout | .transport => .unavailable
  | .hostIo | .unknown => .internal

namespace Outcome

/-- The outcome of an operation that ended with a result. -/
def ofResult : Except OperationError Unit → Outcome
  | .ok () => .success
  | .error e => if e.isRetryable then .retryable e.kind e.message else .fatal e.kind e.message

/-- The kind of error, if it is one. -/
def kind? : Outcome → Option ErrorKind
  | .success => none
  | .retryable kind _ | .fatal kind _ => some kind

/-- The operation was done. -/
def isSuccess (outcome : Outcome) : Bool := outcome == .success

/-- The status of an outcome. -/
def status : Outcome → Except Status Unit
  | .success => .ok ()
  | .retryable kind detail => .error ⟨kind.retryableCode, detail⟩
  | .fatal kind detail => .error ⟨kind.fatalCode, detail⟩

end Outcome

/-- The status of an error. -/
def OperationError.status (e : OperationError) : Status :=
  match (Outcome.ofResult (.error e)).status with
  | .error status => status
  | .ok () => ⟨.unknown, "operation reported success"⟩

/-- The status of options that are no request. -/
def statusOfValidation (e : ValidationError) : Status := ⟨.invalidArgument, e.message⟩

end BlockVolume.Operation
