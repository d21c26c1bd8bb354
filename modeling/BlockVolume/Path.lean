import BlockVolume.Text.Blank
/-!
Paths: a text as it was given, and the components it stands for.

Two paths are the `Same` if their components agree, so doubled and closing slashes and inner dots do
not tell paths apart, while `..` does.
-/

namespace BlockVolume

/-- A path as it was given. -/
structure Path where
  text : String
  deriving DecidableEq

namespace Path

/-- A step of a path. -/
inductive Component where | root | here | up | name (text : String)
  deriving DecidableEq

/-- The pieces between slashes, without empty ones. -/
def pieces (p : Path) : List String :=
  ((Text.splitOnP (· == '/') p.text.toList).filter fun piece => !piece.isEmpty).map String.ofList

/-- Starts at the root. -/
def isAbsolute (p : Path) : Bool := p.text.toList.head? == some '/'

/-- A piece that is neither a dot nor two dots is a name. -/
def component (piece : String) : Component :=
  if piece = ".." then .up else if piece = "." then .here else .name piece

/-- The components of a path — a dot counts only at the very start. -/
def components (p : Path) : List Component :=
  let steps := p.pieces.map component
  let inner := steps.filter (· != .here)
  if p.isAbsolute then .root :: inner
  else if steps.head? = some .here then .here :: inner
  else inner

/-- The same path by components. -/
def same (p q : Path) : Bool := p.components == q.components

/-- The piece of a component. -/
def Component.piece : Component → String
  | .root => ""
  | .here => "."
  | .up => ".."
  | .name text => text

/-- The path with the given components. -/
def ofComponents (components : List Component) : Path :=
  match components with
  | [.root] => ⟨"/"⟩
  | components => ⟨"/".intercalate (components.map Component.piece)⟩

/-- The path without its last component — the root and the empty path have none. -/
def parent? (p : Path) : Option Path :=
  match p.components with
  | [] | [.root] => none
  | components => some (ofComponents components.dropLast)

end Path
end BlockVolume
