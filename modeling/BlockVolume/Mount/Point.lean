import BlockVolume.Path
import BlockVolume.Text.Quoted
/-!
Mount points, and the questions that a table of them answers.

Devices and paths are compared by components. A table lists the mounts in the order they were made,
and where several are at one path the first one counts.
-/

namespace BlockVolume.Mount

open BlockVolume.Text (quote record)

/-- One mount: the first six columns of a mount table. -/
structure MountPoint where
  device : Path
  path : Path
  kind : String
  options : List String
  freq : Int
  pass : Int
  deriving DecidableEq

/-- A mount point written out — the options by their number only. -/
def MountPoint.describe (point : MountPoint) : String :=
  record "MountPoint"
    [("device", quote point.device.text), ("path", quote point.path.text),
     ("type", quote point.kind), ("opts", quote ("length=" ++ toString point.options.length)),
     ("freq", toString point.freq), ("pass", toString point.pass)]

/-- Mount points in the order they were made. -/
abbrev MountTable := List MountPoint

namespace MountTable

/-- The paths at which a device is mounted. -/
def refs (table : MountTable) (device : Path) : List Path :=
  (table.filter fun point => point.device.same device).map MountPoint.path

/-- The first mount at a path. -/
def first? (table : MountTable) (path : Path) : Option MountPoint :=
  table.find? fun point => point.path.same path

/-- The device mounted at a path, with the number of mounts that the device has. -/
def deviceAt (table : MountTable) (path : Path) : Option (Path × Nat) :=
  (table.first? path).map fun point =>
    (point.device, (table.filter fun other => other.device.same point.device).length)

/-- The number of mounts of the device at a path, zero where nothing is mounted. -/
def countAt (table : MountTable) (path : Path) : Nat :=
  match table.deviceAt path with
  | some (_, count) => count
  | none => 0

/-- The table without the first mount at a path. -/
def removeFirst (table : MountTable) (path : Path) : MountTable :=
  table.eraseP fun point => point.path.same path

end MountTable
end BlockVolume.Mount
