import BlockVolume.Mount.Error
import BlockVolume.Mount.Point
import BlockVolume.Text.Decimal
import BlockVolume.Text.Octal
/-!
Mount tables as text.

A line holds one mount in six fields: device, path, type, options, and two integers. `render` writes
a table the way the kernel does; `parse` reads one, all or nothing.
-/

namespace BlockVolume.Mount

open BlockVolume.Text

/-- The number of fields of a line. -/
def fieldsPerLine : Nat := 6

/-- Reads one of the two integers at the end of a line. -/
def parseInteger (name : String) (field : List Char) : Except MountError Int :=
  match Decimal.read field with
  | .ok value => .ok value
  | .error e =>
    .error (.told ("invalid " ++ name ++ ": " ++ record "ParseIntError" [("kind", e.name)]))

/-- Reads a line that is not blank. -/
def parseLine (line : List Char) : Except MountError MountPoint :=
  match fields line with
  | [device, path, kind, options, freq, pass] => do
    let freq ← parseInteger "freq" freq
    let pass ← parseInteger "pass" pass
    .ok
      { device := ⟨String.ofList device⟩
        path := ⟨String.ofList (Octal.decode path)⟩
        kind := String.ofList kind
        options := (splitOnP (· == ',') options).map String.ofList
        freq, pass }
  | found =>
    .error (.told ("wrong number of fields (expected " ++ toString fieldsPerLine ++ ", got " ++
      toString found.length ++ ")"))

/-- Reads the lines that are not blank. -/
def parseLines : List (List Char) → Except MountError MountTable
  | [] => .ok []
  | line :: rest =>
    if line.all isBlank then parseLines rest
    else do
      let point ← parseLine line
      let points ← parseLines rest
      .ok (point :: points)

/-- Reads a mount table. -/
def parseTable (bytes : Bytes) : Except MountError MountTable :=
  match Utf8.decode? bytes with
  | some cs => parseLines (lines cs)
  | none => .error (.told "proc mounts contain invalid UTF8")

/-- A mount point as one line, with blanks and backslashes in its path as octal escapes. -/
def renderLine (point : MountPoint) : List Char :=
  point.device.text.toList ++ ' ' :: Octal.encode point.path.text.toList ++ ' ' ::
    point.kind.toList ++ ' ' :: (",".intercalate point.options).toList ++ ' ' ::
    (toString point.freq).toList ++ ' ' :: (toString point.pass).toList

/-- A mount table as text, one line for each mount. -/
def renderTable (table : MountTable) : Bytes :=
  Utf8.encode (table.flatMap fun point => renderLine point ++ ['\n'])

/-- The number of reads that may disagree before a file counts as inconsistent. -/
def maxTableReads : Nat := 3

/-- Reads until the content is the one read before; `left` more reads are allowed after `last`. -/
def readUntilAgreed {ε : Type} {m : Type → Type} [Monad m] (inconsistent : ε)
    (read : ExceptT ε m Bytes) : (left : Nat) → (last : Bytes) → ExceptT ε m Bytes
  | 0, _ => throw inconsistent
  | left + 1, last => do
    let content ← read
    if content = last then pure content else readUntilAgreed inconsistent read left content

/-- The content that two reads in a row agree on, with at most `attempts` reads after the first. -/
def consistentRead {ε : Type} {m : Type → Type} [Monad m] (inconsistent : ε) (attempts : Nat)
    (read : ExceptT ε m Bytes) : ExceptT ε m Bytes := do
  let first ← read
  readUntilAgreed inconsistent read attempts first

/-- What a file that changes between all reads is reported as. -/
def inconsistentTable (path : Path) : Host.Failure :=
  .told ("could not get consistent content of '" ++ path.text ++ "' after " ++
    toString maxTableReads ++ " attempts")

/-- Reads a mount table from the file at `path`, each `read` being one read of it. -/
def readTable {m : Type → Type} [Monad m] (path : Path) (read : ExceptT Host.Failure m Bytes) :
    ExceptT MountError m MountTable := do
  let content ← ExceptT.adapt .other (consistentRead (inconsistentTable path) maxTableReads read)
  parseTable content

end BlockVolume.Mount
