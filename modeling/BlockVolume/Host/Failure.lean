/-!
Failures of the host: what the system reports, and what a tool or a reader has to say.
-/

namespace BlockVolume.Host

/-- The causes that the system reports by number. -/
inductive SystemCause where
  | noEntry | exists | notDirectory | nameTooLong | tooManyLinks | denied
  deriving DecidableEq

/-- The number of a cause. -/
def SystemCause.number : SystemCause → Nat
  | .noEntry => 2
  | .denied => 13
  | .exists => 17
  | .notDirectory => 20
  | .nameTooLong => 36
  | .tooManyLinks => 40

/-- The system's words for a cause. -/
def SystemCause.words : SystemCause → String
  | .noEntry => "No such file or directory"
  | .denied => "Permission denied"
  | .exists => "File exists"
  | .notDirectory => "Not a directory"
  | .nameTooLong => "File name too long"
  | .tooManyLinks => "Too many levels of symbolic links"

/-- Why something on the host did not work. -/
inductive Failure where
  | system (cause : SystemCause)
  /-- A path that holds the character NUL names no file. -/
  | nulInPath
  /-- A program argument that holds the character NUL cannot be passed on. -/
  | nulInArgument
  | told (text : String)
  deriving DecidableEq

/-- The text of a failure. -/
def Failure.message : Failure → String
  | .system cause => cause.words ++ " (os error " ++ toString cause.number ++ ")"
  | .nulInPath => "file name contained an unexpected NUL byte"
  | .nulInArgument => "nul byte found in provided data"
  | .told text => text

/-- The name of the kind of a failure. -/
def Failure.name : Failure → String
  | .system .noEntry => "NotFound"
  | .system .exists => "AlreadyExists"
  | .system .notDirectory => "NotADirectory"
  | .system .nameTooLong => "InvalidFilename"
  | .system .tooManyLinks => "FilesystemLoop"
  | .system .denied => "PermissionDenied"
  | .nulInPath | .nulInArgument => "InvalidInput"
  | .told _ => "Other"

/-- The failure says that there is nothing at the path. -/
def Failure.isNotFound (failure : Failure) : Bool :=
  failure == .system .noEntry

end BlockVolume.Host
