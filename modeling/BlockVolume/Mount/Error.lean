import BlockVolume.Host.Failure
import BlockVolume.Path
/-!
Errors of mounting, formatting and looking at mounts.
-/

namespace BlockVolume.Mount

open BlockVolume.Host (Failure)

/-- Why a mount operation failed. -/
inductive MountError where
  | filesystemMismatch (device : Path) (existing requested : String)
  | unformattedReadOnly (device : Path)
  | formatFailed (device : Path) (cause : Failure)
  | probeFailed (device : Path) (cause : Failure)
  | notADirectory (path : Path)
  | other (cause : Failure)
  deriving DecidableEq

namespace MountError

/-- An error that only tells what happened. -/
def told (text : String) : MountError := .other (.told text)

/-- The name of the kind of an error. -/
def name : MountError → String
  | .filesystemMismatch _ _ _ => "FilesystemMismatch"
  | .unformattedReadOnly _ => "UnformattedReadOnly"
  | .formatFailed _ _ => "FormatFailed"
  | .probeFailed _ _ => "GetDiskFormatFailed"
  | .notADirectory _ => "NotADirectory"
  | .other _ => "UnknownMountError"

/-- The failure of the host behind an error. -/
def cause? : MountError → Option Failure
  | .formatFailed _ cause | .probeFailed _ cause | .other cause => some cause
  | _ => none

/-- The text of an error. -/
def message : MountError → String
  | .filesystemMismatch device existing requested =>
    "File system mismatch on " ++ device.text ++ ": found " ++ existing ++ ", requested " ++
      requested
  | .unformattedReadOnly device => "Unformatted read only: " ++ device.text
  | .formatFailed device _ => "Format failed: " ++ device.text
  | .probeFailed device _ => "Get disk format failed: " ++ device.text
  | .notADirectory path => path.text ++ " already exists and is not a directory"
  | .other cause => "Unknown mount error: " ++ cause.message

end MountError
end BlockVolume.Mount
