import BlockVolume.Host.FileTree
import BlockVolume.Mount.Error
/-!
Mount targets on the host's file tree.

`createTarget` makes a target and its missing parents; it takes nothing away and adds directories
only.
-/

namespace BlockVolume.Host.FileTree

open BlockVolume.Mount (MountError)

/-- Something is at the path — also where looking fails in any way but "not found". -/
def isPresent (tree : FileTree) (p : Path) : Bool :=
  match tree.entry true p with
  | .ok _ => true
  | .error failure => !failure.isNotFound

/-- The directory at the path holds nothing. -/
def isEmptyDirectory (tree : FileTree) (p : Path) : Except Failure Bool := do
  let place ← tree.locate true p
  if tree.at? place = some .dir then .ok (tree.isBare place)
  else .error (.system .notDirectory)

/-- Makes a directory unless there is one. -/
def ensureDirectory (tree : FileTree) (p : Path) : Except Failure Unit × FileTree :=
  match tree.makeDirectory p with
  | .ok tree => (.ok (), tree)
  | .error failure => (if tree.isDirectory p then .ok () else .error failure, tree)

/-- Makes a directory and its missing parents, of which there are `depth` at most. -/
def makeDirectories (depth : Nat) (tree : FileTree) (p : Path) : Except Failure Unit × FileTree :=
  if p.same ⟨""⟩ then (.ok (), tree)
  else
    match tree.makeDirectory p with
    | .ok tree => (.ok (), tree)
    | .error failure =>
      if !failure.isNotFound then (if tree.isDirectory p then .ok () else .error failure, tree)
      else
        match depth, p.parent? with
        | depth + 1, some parent =>
          match makeDirectories depth tree parent with
          | (.ok (), tree) => tree.ensureDirectory p
          | (.error failure, tree) => (.error failure, tree)
        | _, _ => (.error (.told "failed to create whole tree"), tree)

/-- Sees to it that the target is a directory, and not a link to one. -/
def createTarget (tree : FileTree) (p : Path) : Except MountError Unit × FileTree :=
  match tree.entry false p with
  | .ok .dir => (.ok (), tree)
  | .ok _ => (.error (.notADirectory p), tree)
  | .error failure =>
    if failure.isNotFound then
      let (result, tree) := tree.makeDirectories p.components.length p
      (result.mapError .other, tree)
    else (.error (.other failure), tree)

end BlockVolume.Host.FileTree
