import BlockVolume.Operation.Call
import BlockVolume.Operation.Device
/-!
Attaching a disk to a node and mounting it.

The disk is attached unless it already is, watched until it is in use, and its device is formatted
if blank and mounted at an empty directory. A device that is mounted there already is left alone.
-/

namespace BlockVolume.Operation

open BlockVolume.Cloud (Disk)
open BlockVolume.Volume (Request)

/-- Mounts the device of an attached disk at the target. -/
def mountDevice (setting : Setting) (request : Request) (disk : Disk) (target : Path) :
    Step Unit := do
  if disk.device.isEmpty then setting.fail .noDevice
  else do
    let device ← hostDevice disk.device
    setting.onHost "create mount target" (← (TreeAsk.createTarget target).ask)
    let mounted ← setting.onHost "inspect mount target" (← (MountAsk.deviceAt target).ask)
    match mounted with
    | some (existing, _) =>
      if (deviceNames disk.device).any existing.same then pure ()
      else setting.fail (.targetBusy target existing)
    | none =>
      match ← (TreeAsk.isEmptyDirectory target).ask with
      | .ok true =>
        let options := if request.readOnly then ["ro"] else []
        setting.onHost "format and mount"
          (← (MountAsk.formatAndMount device target request.fsType.name options).ask)
      | .ok false => setting.fail (.targetNotEmpty target)
      | .error failure => setting.fail (.host "inspect mount target" (.other failure))

/-- Attaches the disk of a request to its node and mounts it at the target. -/
def attach (setting : Setting) (request : Request) (target : Path) : Step Unit := do
  let client ← setting.connect
  let (client, disk) ← setting.describe request.region client
  let client ←
    if disk.isAttachedTo request.node then pure client
    else do
      let (client, ()) ← setting.call
        (fun api => (CloudAsk.attach api request.disk request.node).ask) client
      pure client
  let (_, disk) ← setting.waitFor request.region "attached" (·.isSettledOn request.node) client
  mountDevice setting request disk target

end BlockVolume.Operation
