/-!
Disks as the control plane reports them.
-/

namespace BlockVolume.Cloud

/-- What a disk is doing. -/
inductive DiskStatus where
  | inUse | available | attaching | detaching | creating | reIniting | unknown
  deriving DecidableEq

/-- The status of a word of the control plane. -/
def DiskStatus.ofWord : String → DiskStatus
  | "In_use" => .inUse
  | "Available" => .available
  | "Attaching" => .attaching
  | "Detaching" => .detaching
  | "Creating" => .creating
  | "ReIniting" => .reIniting
  | _ => .unknown

/-- The name of a status. -/
def DiskStatus.name : DiskStatus → String
  | .inUse => "InUse"
  | .available => "Available"
  | .attaching => "Attaching"
  | .detaching => "Detaching"
  | .creating => "Creating"
  | .reIniting => "ReIniting"
  | .unknown => "Unknown"

/-- A disk. -/
structure Disk where
  id : String
  status : DiskStatus
  /-- The instance the disk is attached to, empty when detached. -/
  holder : String
  /-- The device name of the attachment. -/
  device : String
  category : String
  zone : String
  deriving DecidableEq

namespace Disk

/-- Attached to the node, or about to be. -/
def isAttachedTo (disk : Disk) (node : String) : Bool :=
  disk.holder == node && (disk.status == .inUse || disk.status == .attaching)

/-- In use by the node. -/
def isSettledOn (disk : Disk) (node : String) : Bool :=
  disk.status == .inUse && disk.holder == node

/-- Not with the node, or with nobody. -/
def isFreeOf (disk : Disk) (node : String) : Bool :=
  disk.holder != node || disk.status == .available

end Disk
end BlockVolume.Cloud
