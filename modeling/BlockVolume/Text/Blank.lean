/-!
Blank characters, and the ways of cutting a text at them.

`splitOnP` keeps every piece, so joining the pieces again loses only the separators; `fields` and
`lines` are read off it.
-/

namespace BlockVolume.Text

/-- Characters with the Unicode property `White_Space`. -/
def isBlank (c : Char) : Bool :=
  let n := c.toNat
  (9 ≤ n && n ≤ 13) || n == 0x20 || n == 0x85 || n == 0xA0 || n == 0x1680 ||
    (0x2000 ≤ n && n ≤ 0x200A) || n == 0x2028 || n == 0x2029 || n == 0x202F || n == 0x205F ||
    n == 0x3000

/-- Drops blanks from both ends. -/
def trimChars (cs : List Char) : List Char :=
  ((cs.dropWhile isBlank).reverse.dropWhile isBlank).reverse

/-- Drops blanks from both ends of a text. -/
def trim (s : String) : String :=
  String.ofList (trimChars s.toList)

/-- Cuts at every element that satisfies `p` — `n` separators give `n + 1` pieces. -/
def splitOnP {α : Type} (p : α → Bool) : List α → List (List α)
  | [] => [[]]
  | c :: cs =>
    if p c then [] :: splitOnP p cs
    else
      match splitOnP p cs with
      | [] => [[c]]
      | piece :: pieces => (c :: piece) :: pieces

/-- The maximal runs of non-blank characters, in order. -/
def fields (cs : List Char) : List (List Char) :=
  (splitOnP isBlank cs).filter fun piece => !piece.isEmpty

/-- A line that ended in a line feed, less the carriage return before it. -/
def dropReturn (line : List Char) : List Char :=
  if line.getLast? = some '\r' then line.dropLast else line

/-- Terminated lines lose a carriage return; a last piece without line feed counts if it has text.
-/
def closeLines : List (List Char) → List (List Char)
  | [] => []
  | [last] => if last.isEmpty then [] else [last]
  | line :: rest => dropReturn line :: closeLines rest

/-- The lines of a text, each ended by a line feed with or without a carriage return before it. -/
def lines (cs : List Char) : List (List Char) :=
  closeLines (splitOnP (· == '\n') cs)

/-- The text around the first occurrence of `sep`, which is in neither part. -/
def splitFirst (sep : Char) : List Char → Option (List Char × List Char)
  | [] => none
  | c :: cs =>
    if c = sep then some ([], cs)
    else (splitFirst sep cs).map fun (before, after) => (c :: before, after)

end BlockVolume.Text
