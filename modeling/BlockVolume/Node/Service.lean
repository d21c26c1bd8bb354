import BlockVolume.Lock.Table
import BlockVolume.Operation.Execute
/-!
The volume operations of a node.

Staging attaches a disk and mounts it at the staging path, unstaging takes both back; they are
serialized for each disk. Publishing shows a staged file system at another path by a bind mount, and
takes no lock.
-/

namespace BlockVolume.Node

open BlockVolume.Mount (MountError)
open BlockVolume.Operation
open BlockVolume.Volume (Options Request)

/-- A node with its default region and its attacher. -/
structure Service where
  defaultRegion : String
  attacher : Attacher

/-- What a node operation ends with. -/
abbrev Answer := Except Status Unit

/-- A step of a node operation. -/
abbrev NodeStep := ExceptT Status NodeProgram

namespace Service

/-- The service with its locks written out. -/
def describe {ν : Type} [DecidableEq ν] (service : Service) (locks : Lock.Table ν) : String :=
  Text.record "DiskNode"
    [("default_region", Text.quote service.defaultRegion), ("locks", locks.describe),
     ("attacher", service.attacher.describe)]

/-- The request for a volume — its id stands above any id among the options. -/
def parse (service : Service) (volume : String) (options : Options) : NodeStep Request :=
  ExceptT.adapt statusOfValidation
    (Request.parse (options.insert Volume.diskKey volume) service.defaultRegion)

/-- Does an action on a request while holding its lock. -/
def perform (service : Service) (action : Action) (request : Request) (target : Path) :
    NodeProgram Outcome := do
  (Ask.acquire request.lockKey).ask
  let outcome ← service.attacher.execute action request target
  (Ask.release request.lockKey).ask
  return outcome

/-- Does an action on a volume. -/
def change (service : Service) (action : Action) (volume : String) (staging : Path)
    (options : Options) : NodeStep Unit := do
  let request ← service.parse volume options
  let outcome ← service.perform action request staging
  outcome.status

/-- Attaches a disk to this node and mounts it at the staging path. -/
def stage (service : Service) (volume : String) (staging : Path) (options : Options) :
    NodeStep Unit :=
  service.change .attach volume staging options

/-- Unmounts the staging path and detaches the disk from this node. -/
def unstage (service : Service) (volume : String) (staging : Path) (options : Options) :
    NodeStep Unit :=
  service.change .detach volume staging options

end Service

/-- Takes a mounter's answer; an error is internal to the node. -/
def internal {α : Type} : Except MountError α → NodeStep α
  | .ok value => pure value
  | .error e => throw ⟨.internal, e.message⟩

/-- Shows the staged file system at the target, unless something is mounted there. -/
def publish (staging target : Path) (readOnly : Bool) : NodeStep Unit := do
  internal (← (TreeAsk.createTarget target).ask)
  match ← internal (← (MountAsk.deviceAt target).ask) with
  | some _ => pure ()
  | none =>
    let options := if readOnly then ["bind", "ro"] else ["bind"]
    internal (← (MountAsk.mount (some staging) target "" options).ask)

/-- Unmounts the target, if anything is mounted there. -/
def unpublish (target : Path) : NodeStep Unit := do
  match ← internal (← (MountAsk.deviceAt target).ask) with
  | none => pure ()
  | some _ => internal (← (MountAsk.unmount target (some forceUnmountAfterMs)).ask)

end BlockVolume.Node
