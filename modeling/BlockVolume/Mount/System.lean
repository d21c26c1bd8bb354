import BlockVolume.Mount.BindOptions
import BlockVolume.Mount.Format
import BlockVolume.Mount.Probe
import BlockVolume.Mount.TableText
import BlockVolume.Mount.Tool
/-!
The mounter of the host: mounts, unmounts, probes and formats by running the host's tools.

The first tool that fails ends an operation. A forced unmount is a second try, made only where the
first one hangs.
-/

namespace BlockVolume.Mount

open BlockVolume.Host (Failure)
open BlockVolume.Text (trim Utf8.toStringLossy)

/-- A step that may end in a mount error. -/
abbrev SystemStep := ExceptT MountError ToolProgram

/-- The host's mounter, with the program it mounts by. -/
structure SystemMounter where
  mountProgram : Path

/-- The arguments of a mount: type and options where there are any, the source, the target. -/
def mountArguments (source : Option Path) (target : Path) (kind : String) (options : List String) :
    List String :=
  (if kind.isEmpty then [] else ["-t", kind]) ++
    (if options.isEmpty then [] else ["-o", ",".intercalate options]) ++
    (source.map Path.text).toList ++ [target.text]

/-- The path by which a program is started: a relative one starts from the working directory. -/
def executable (program : Path) : String :=
  if program.isAbsolute then program.text else "./" ++ program.text

/-- Runs a command, its failure told as a mount error. -/
def runTool (command : Command) (wrap : Failure → MountError) : SystemStep Unit :=
  ExceptT.adapt wrap command.run

namespace SystemMounter

/-- Runs the mount program once. -/
def mountOnce (mounter : SystemMounter) (source : Option Path) (target : Path) (kind : String)
    (options : List String) : SystemStep Unit :=
  runTool ⟨executable mounter.mountProgram, mountArguments source target kind options⟩ .other

/-- Mounts `source` at `target` — a bind mount is made first and then remounted. -/
def mount (mounter : SystemMounter) (source : Option Path) (target : Path) (kind : String)
    (options : List String) : SystemStep Unit := do
  let bind := BindOptions.ofList options
  if bind.isBind then
    mounter.mountOnce source target kind bind.first
    mounter.mountOnce source target kind bind.remount
  else mounter.mountOnce source target kind options

/-- Unmounts a target. If the tool still runs after `forceAfter` milliseconds it is killed, and the
unmount is forced. -/
def unmount (target : Path) (forceAfter : Option Nat) : SystemStep Unit := do
  let command : Command := ⟨"umount", [target.text]⟩
  match forceAfter with
  | none => runTool command .other
  | some ms =>
    match ← (ToolAsk.runFor command ms).ask with
    | some ended =>
      match ended.ending.failure? command with
      | none => pure ()
      | some failure => throw (.other failure)
    | none => runTool ⟨"umount", ["-f", target.text]⟩ .other

/-- The probe of a device. -/
def probeCommand (device : Path) : Command :=
  ⟨"blkid", ["-p", "-s", "TYPE", "-s", "PTTYPE", "-o", "export", device.text]⟩

/-- The exit code of a probe that finds nothing on a device. -/
def nothingFound : Nat := 2

/-- What is on a device, nothing if it is blank. -/
def format? (device : Path) : SystemStep (Option String) := do
  let ended ← (ToolAsk.run (probeCommand device)).ask
  match ended.ending with
  | .exited 0 => pure (parseProbe (Text.Utf8.decodeLossy ended.output))
  | .notStarted cause => throw (.probeFailed device cause)
  | ending =>
    if ending = .exited nothingFound then pure none
    else
      throw (.probeFailed device (.told ("blkid failed with ExitStatus(unix_wait_status(" ++
        toString ending.status ++ ")): " ++ trim (Text.Utf8.toStringLossy ended.errors))))

/-- The command that makes a file system. -/
def formatCommand (device : Path) (kind : String) : Command :=
  ⟨"mkfs." ++ kind,
    if kind = "ext3" ∨ kind = "ext4" then ["-F", "-m0", device.text] else [device.text]⟩

/-- Makes a file system on a device. -/
def makeFileSystem (device : Path) (kind : String) : SystemStep Unit :=
  runTool (formatCommand device kind) (.formatFailed device)

/-- The tools behind mounting with a format. -/
def primitives (mounter : SystemMounter) : Primitives ToolProgram where
  format? := format?
  makeFileSystem := makeFileSystem
  mount := mounter.mount

/-- The kernel's mount table. -/
def tablePath : Path := ⟨"/proc/mounts"⟩

/-- All mounts of the host. -/
def list : SystemStep MountTable :=
  readTable tablePath (ExceptT.mk ToolAsk.readTable.ask)

end SystemMounter
end BlockVolume.Mount
