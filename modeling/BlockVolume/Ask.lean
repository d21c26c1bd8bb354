import BlockVolume.Cloud.ApiError
import BlockVolume.Cloud.Credentials
import BlockVolume.Cloud.Disk
import BlockVolume.Mount.Error
import BlockVolume.Program
/-!
What volume operations ask of their surroundings.

The surroundings have four parts: the cloud, the mounter, the host's file tree, and the other
operations on the node with the clock they share.
-/

namespace BlockVolume

open BlockVolume.Cloud (ApiError Credentials Disk)
open BlockVolume.Host (Failure)
open BlockVolume.Mount (MountError)

/-- What is locked: one disk on one node. -/
structure LockKey where
  node : String
  disk : String
  deriving DecidableEq

/-- The handle of a control-plane client: which of the clients built so far it is. -/
structure Api where
  serial : Nat
  deriving DecidableEq

/-- Questions to the cloud. -/
inductive CloudAsk where
  /-- A resource of the instance metadata service. -/
  | metadata (resource : String)
  /-- A client for the given credentials. -/
  | client (credentials : Credentials)
  | describe (api : Api) (region disk : String)
  | attach (api : Api) (disk node : String)
  | detach (api : Api) (disk node : String)

/-- The cloud's answers. -/
abbrev CloudAsk.Answer : CloudAsk → Type
  | .metadata _ => Option String
  | .client _ => Option Api
  | .describe _ _ _ => Except ApiError (Option Disk)
  | .attach _ _ _ | .detach _ _ _ => Except ApiError Unit

/-- Questions to the mounter. -/
inductive MountAsk where
  /-- The paths a device is mounted at. -/
  | refs (device : Path)
  /-- The device at a path, with the number of its mounts. -/
  | deviceAt (target : Path)
  /-- The number of mounts of the device at a path. -/
  | countAt (target : Path)
  | unmount (target : Path) (forceAfter : Option Nat)
  | formatAndMount (device target : Path) (kind : String) (options : List String)
  | mount (source : Option Path) (target : Path) (kind : String) (options : List String)

/-- The mounter's answers. -/
abbrev MountAsk.Answer : MountAsk → Type
  | .refs _ => Except MountError (List Path)
  | .deviceAt _ => Except MountError (Option (Path × Nat))
  | .countAt _ => Except MountError Nat
  | .unmount _ _ | .formatAndMount _ _ _ _ | .mount _ _ _ _ => Except MountError Unit

/-- Questions about the host's file tree. -/
inductive TreeAsk where
  /-- Something is at a path. -/
  | isPresent (path : Path)
  /-- The link-free form of a path. -/
  | canonical (path : Path)
  /-- Make a mount target. -/
  | createTarget (path : Path)
  /-- A directory holds nothing. -/
  | isEmptyDirectory (path : Path)

/-- The file tree's answers. -/
abbrev TreeAsk.Answer : TreeAsk → Type
  | .isPresent _ => Bool
  | .canonical _ => Option Path
  | .createTarget _ => Except MountError Unit
  | .isEmptyDirectory _ => Except Failure Bool

/-- All questions. -/
inductive Ask where
  | cloud (question : CloudAsk)
  | mounter (question : MountAsk)
  | tree (question : TreeAsk)
  /-- Let some milliseconds pass. -/
  | sleep (ms : Nat)
  /-- Wait until a resource is free and take it. -/
  | acquire (key : LockKey)
  /-- Give a resource back. -/
  | release (key : LockKey)

/-- All answers. -/
abbrev Ask.Answer : Ask → Type
  | .cloud question => question.Answer
  | .mounter question => question.Answer
  | .tree question => question.Answer
  | .sleep _ | .acquire _ | .release _ => Unit

/-- A program on a node. -/
abbrev NodeProgram := Program Ask.Answer

/-- Asks the cloud. -/
def CloudAsk.ask (question : CloudAsk) : NodeProgram question.Answer := .query (Ask.cloud question)

/-- Asks the mounter. -/
def MountAsk.ask (question : MountAsk) : NodeProgram question.Answer :=
  .query (Ask.mounter question)

/-- Asks the file tree. -/
def TreeAsk.ask (question : TreeAsk) : NodeProgram question.Answer := .query (Ask.tree question)

/-- Asks for anything. -/
def Ask.ask (question : Ask) : NodeProgram question.Answer := .query question

end BlockVolume
