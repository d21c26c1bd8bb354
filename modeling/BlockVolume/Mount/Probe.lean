import BlockVolume.Text.Blank
/-!
What a device probe says is on a device.
-/

namespace BlockVolume.Mount

open BlockVolume.Text

/-- The format reported for a device that has a partition table and no file system. -/
def partitionedFormat : String := "unknown data, probably partitions"

/-- The value of the last line, trimmed, that is `key=` and at least one character. -/
def lastValue? (key : String) (ls : List (List Char)) : Option String :=
  (ls.filterMap fun line =>
    match splitFirst '=' (trimChars line) with
    | some (name, value) =>
      if name = key.toList && !value.isEmpty then some (String.ofList value) else none
    | none => none).getLast?

/-- The format in the output of a probe: the file system, or else that there are partitions. -/
def parseProbe (output : List Char) : Option String :=
  match lastValue? "TYPE" (lines output) with
  | some kind => some kind
  | none => (lastValue? "PTTYPE" (lines output)).map fun _ => partitionedFormat

end BlockVolume.Mount
