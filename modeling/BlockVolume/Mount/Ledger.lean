import BlockVolume.Host.FileTree
import BlockVolume.Mount.Format
import BlockVolume.Mount.Point
/-!
A mounter that only keeps books: a mount table, the format of each device, and a log of what was
done.

New mounts go to the end of the table and an unmount takes the first one at the path away, so the
books show what a host would show after the same operations.
-/

namespace BlockVolume.Mount

open BlockVolume.Host (FileTree)

/-- What a mounter did. -/
inductive Action where
  | mount (target source : Path) (kind : String)
  | unmount (target : Path)
  | format (device : Path) (kind : String)
  deriving DecidableEq

/-- The books of a mounter. -/
structure Ledger where
  table : MountTable
  formats : List (Path × String)
  /-- What was done, the latest first. -/
  log : List Action

namespace Ledger

/-- Books with the given mounts and nothing else. -/
def ofTable (table : MountTable) : Ledger := ⟨table, [], []⟩

/-- What was done, in order. -/
def actions (ledger : Ledger) : List Action := ledger.log.reverse

/-- The recorded format of a device. -/
def formatOf? (ledger : Ledger) (device : Path) : Option String :=
  (ledger.formats.find? fun (other, _) => other.same device).map Prod.snd

/-- Records the format of a device. -/
def setFormat (ledger : Ledger) (device : Path) (kind : String) : Ledger :=
  { ledger with
    formats := (device, kind) :: ledger.formats.filter fun (other, _) => !other.same device }

/-- Writes an action down. -/
def record (ledger : Ledger) (action : Action) : Ledger :=
  { ledger with log := action :: ledger.log }

/-- Forgets the actions. -/
def clearLog (ledger : Ledger) : Ledger := { ledger with log := [] }

/-- The device behind a mount source — a bind mount shows the device that is mounted there. -/
def sourceDevice (ledger : Ledger) (source : Path) (options : List String) : Path :=
  if options.contains "bind" then
    match ledger.table.first? source with
    | some point => point.device
    | none => source
  else source

/-- Mounts `source` at `target`; a mount without source is refused. -/
def mount (ledger : Ledger) (source : Option Path) (target : Path) (kind : String)
    (options : List String) : Except MountError Unit × Ledger :=
  match source with
  | none => (.error (.told "missing required source in fake mounter"), ledger)
  | some source =>
    let device := ledger.sourceDevice source options
    let point : MountPoint := ⟨device, target, kind, options, 0, 0⟩
    (.ok (), { ledger with table := ledger.table ++ [point] }.record (.mount target device kind))

/-- Takes the first mount at the target away. -/
def unmount (ledger : Ledger) (target : Path) : Ledger :=
  { ledger with table := ledger.table.removeFirst target }.record (.unmount target)

/-- Makes a file system. -/
def makeFileSystem (ledger : Ledger) (device : Path) (kind : String) : Ledger :=
  (ledger.setFormat device kind).record (.format device kind)

/-- The books behind mounting with a format. -/
def primitives : Primitives (StateM Ledger) where
  format? device := do return (← get).formatOf? device
  makeFileSystem device kind := modify (·.makeFileSystem device kind)
  mount source target kind options :=
    ExceptT.mk fun ledger => ledger.mount source target kind options

/-- Formats a blank device and mounts it. -/
def formatAndMount (ledger : Ledger) (device target : Path) (kind : String)
    (options : List String) : Except MountError Unit × Ledger :=
  (primitives.formatAndMount device target kind options).run.run ledger

/-- Where a lookup at a path looks: at its link-free form if there is one. -/
def lookupPath (tree : FileTree) (path : Path) : Path :=
  (tree.canonical? path).getD path

end Ledger
end BlockVolume.Mount
