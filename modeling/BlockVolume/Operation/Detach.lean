import BlockVolume.Operation.Call
import BlockVolume.Operation.Device
/-!
Unmounting a disk and detaching it from a node.

While the device is mounted at any path but the target, nothing is touched. A disk that is not with
the node, or is no more, needs no detaching.
-/

namespace BlockVolume.Operation

open BlockVolume.Volume (Request)

/-- How long an unmount may take before it is forced, in milliseconds. -/
def forceUnmountAfterMs : Nat := 30000

/-- Unmounts the target once, if anything is mounted there. -/
def unmountTarget (setting : Setting) (target : Path) : Step Unit := do
  let count ← setting.onHost "count mounts" (← (MountAsk.countAt target).ask)
  if count = 0 then pure ()
  else
    setting.onHost "unmount" (← (MountAsk.unmount target (some forceUnmountAfterMs)).ask)

/-- The paths other than `own` at which the devices are mounted, device by device. -/
def mountsElsewhere (setting : Setting) (own : List Path) : List Path → Step (List Path)
  | [] => pure []
  | device :: devices => do
    let refs ← setting.onHost "list device mounts" (← (MountAsk.refs device).ask)
    let others ← mountsElsewhere setting own devices
    pure (refs.filter (fun path => !own.any path.same) ++ others)

/-- The disk of the context, or nothing where the control plane does not know it. -/
def describe? (setting : Setting) (region : String) (client : Cloud.Client) :
    Step (Option (Cloud.Client × Cloud.Disk)) :=
  ExceptT.mk do
    match ← (setting.describe region client).run with
    | .ok found => return .ok (some found)
    | .error (.failed _ (.diskNotFound _)) => return .ok none
    | .error e => return .error e

/-- Unmounts the target and detaches the disk of a request from its node. -/
def detach (setting : Setting) (request : Request) (target : Path) : Step Unit := do
  let client ← setting.connect
  match ← describe? setting request.region client with
  | none => unmountTarget setting target
  | some (client, disk) =>
    if disk.isFreeOf request.node then unmountTarget setting target
    else do
      let own := target :: (← (TreeAsk.canonical target).ask).toList
      let busy ← mountsElsewhere setting own (deviceNames disk.device)
      if busy.isEmpty then do
        unmountTarget setting target
        let (client, ()) ← setting.call
          (fun api => (CloudAsk.detach api request.disk request.node).ask) client
        let _ ← setting.waitFor request.region "detached" (·.isFreeOf request.node) client
        pure ()
      else setting.fail (.deviceBusy busy)

end BlockVolume.Operation
