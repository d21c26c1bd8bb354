import BlockVolume.Host.Failure
import BlockVolume.Path
/-!
File trees of directories, files and symbolic links.

A tree lists its entries by location: the names from the root down, with no dots and no links among
them. The root is always a directory. `walk` leads a path to a location the way the system does — it
follows links, counts them, and takes `..` from where the links have led.
-/

namespace BlockVolume.Host

/-- What stands at a location. -/
inductive Entry where | dir | file | link (target : String)
  deriving DecidableEq

/-- The names from the root down. -/
abbrev Location := List String

/-- The entries of a file tree, the root left out. -/
structure FileTree where
  entries : List (Location × Entry)

namespace FileTree

/-- What stands at a location. -/
def at? (tree : FileTree) (place : Location) : Option Entry :=
  if place.isEmpty then some .dir else tree.entries.lookup place

/-- Puts an entry at a location where nothing stands. -/
def add (tree : FileTree) (place : Location) (entry : Entry) : FileTree :=
  ⟨tree.entries ++ [(place, entry)]⟩

/-- Puts an entry at a location unless something stands there, with the directories above it that
are missing. -/
def plant (tree : FileTree) (place : Location) (entry : Entry) : FileTree :=
  let put := fun (tree : FileTree) place entry =>
    if (tree.at? place).isSome then tree else tree.add place entry
  let parents := (List.range place.length).map place.take
  put (parents.foldl (fun tree parent => put tree parent .dir) tree) place entry

/-- The entries below a location, located from there. -/
def below (tree : FileTree) (place : Location) : List (Location × Entry) :=
  tree.entries.filterMap fun (other, entry) =>
    if place.length < other.length && place.isPrefixOf other then
      some (other.drop place.length, entry)
    else none

/-- A directory that holds nothing. -/
def isBare (tree : FileTree) (place : Location) : Bool :=
  !tree.entries.any fun (other, _) => !other.isEmpty && other.dropLast == place

/-- The number of links that one walk may follow. -/
def maxLinks : Nat := 40

/-- The number of bytes that a name may have. -/
def maxNameBytes : Nat := 255

/-- The number of bytes that a path may have. -/
def maxPathBytes : Nat := 4095

/-- Ends in a slash, and so can name a directory only. -/
def endsInSlash (p : Path) : Bool := p.text.toList.getLast? == some '/'

/-- The pieces of a path, with a dot for a closing slash. -/
def steps (p : Path) : List String :=
  if endsInSlash p then p.pieces ++ ["."] else p.pieces

/-- Follows `todo` from the directory `place`. A link is replaced by the pieces of its target — at
the end of the path only if `follow` is set — and uses up one of `links`. -/
def walk (tree : FileTree) (follow : Bool) (links : Nat) (todo : List String) (place : Location) :
    Except Failure Location :=
  match todo with
  | [] => .ok place
  | piece :: rest =>
    match Path.component piece with
    | .up => tree.walk follow links rest place.dropLast
    | .name name =>
      if name.utf8ByteSize > maxNameBytes then .error (.system .nameTooLong)
      else
        match tree.at? (place ++ [name]) with
        | none => .error (.system .noEntry)
        | some .dir => tree.walk follow links rest (place ++ [name])
        | some .file =>
          if rest.isEmpty then .ok (place ++ [name]) else .error (.system .notDirectory)
        | some (.link target) =>
          if rest.isEmpty && !follow then .ok (place ++ [name])
          else
            match links with
            | 0 => .error (.system .tooManyLinks)
            | links + 1 =>
              if target.isEmpty then .error (.system .noEntry)
              else
                tree.walk follow links (steps ⟨target⟩ ++ rest)
                  (if Path.isAbsolute ⟨target⟩ then [] else place)
    | _ => tree.walk follow links rest place
termination_by (links, todo.length)

/-- A path text that the system takes at all. -/
def checkText (p : Path) : Except Failure Unit :=
  if p.text.toList.contains '\x00' then .error .nulInPath
  else if p.text.isEmpty then .error (.system .noEntry)
  else if p.text.utf8ByteSize > maxPathBytes then .error (.system .nameTooLong)
  else .ok ()

/-- The location that a path leads to, where something stands. -/
def locate (tree : FileTree) (follow : Bool) (p : Path) : Except Failure Location := do
  checkText p
  tree.walk follow maxLinks (steps p) []

/-- What a path leads to. -/
def entry (tree : FileTree) (follow : Bool) (p : Path) : Except Failure Entry := do
  let place ← tree.locate follow p
  match tree.at? place with
  | some entry => .ok entry
  | none => .error (.system .noEntry)

/-- The path of a location. -/
def pathOf (place : Location) : Path :=
  ⟨"/" ++ "/".intercalate place⟩

/-- The link-free absolute form of a path that leads somewhere. -/
def canonical? (tree : FileTree) (p : Path) : Option Path :=
  match tree.locate true p with
  | .ok place => some (pathOf place)
  | .error _ => none

/-- Leads to a directory. -/
def isDirectory (tree : FileTree) (p : Path) : Bool :=
  match tree.entry true p with
  | .ok .dir => true
  | _ => false

/-- Makes one directory, the parent of which must be there. -/
def makeDirectory (tree : FileTree) (p : Path) : Except Failure FileTree := do
  checkText p
  match p.pieces.getLast? with
  | none => .error (.system .exists)
  | some piece =>
    let place ← tree.walk true maxLinks p.pieces.dropLast []
    if tree.at? place != some .dir then .error (.system .notDirectory)
    else
      match Path.component piece with
      | .name name =>
        if name.utf8ByteSize > maxNameBytes then .error (.system .nameTooLong)
        else if (tree.at? (place ++ [name])).isSome then .error (.system .exists)
        else .ok (tree.add (place ++ [name]) .dir)
      | _ => .error (.system .exists)

end FileTree
end BlockVolume.Host
