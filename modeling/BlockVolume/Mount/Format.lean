import BlockVolume.Mount.Error
/-!
Mounting a device that may still be blank.

A device is formatted only if it carries nothing, and a read-only mount never formats.
-/

namespace BlockVolume.Mount

/-- What mounting asks of a mounter: the format of a device, a new file system, and the mount. -/
structure Primitives (m : Type → Type) where
  format? : Path → ExceptT MountError m (Option String)
  makeFileSystem : (device : Path) → (kind : String) → ExceptT MountError m Unit
  mount : (source : Option Path) → (target : Path) → (kind : String) → (options : List String) →
    ExceptT MountError m Unit

/-- Formats a blank device and mounts it; what is on the device must be of the kind asked for. -/
def Primitives.formatAndMount {m : Type → Type} [Monad m] (mounter : Primitives m)
    (device target : Path) (kind : String) (options : List String) :
    ExceptT MountError m Unit := do
  match ← mounter.format? device with
  | none =>
    if options.contains "ro" then throw (.unformattedReadOnly device)
    else do
      mounter.makeFileSystem device kind
      mounter.mount (some device) target kind options
  | some existing =>
    if existing = kind then mounter.mount (some device) target kind options
    else throw (.filesystemMismatch device existing kind)

end BlockVolume.Mount
