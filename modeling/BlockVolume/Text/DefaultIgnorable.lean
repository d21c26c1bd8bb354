import BlockVolume.Text.Ranges
/-!
Code points with the Unicode property `Default_Ignorable_Code_Point`: where a font has no sign for
them, nothing is drawn at all, fillers of the Hangul script among them.
-/

namespace BlockVolume.Text

/-- Where runs of ignorable code points begin and end, in ascending order. -/
def defaultIgnorableBounds : List Nat := [
    173, 174, 847, 848, 1564, 1565, 4447, 4449, 6068, 6070, 6155, 6160, 8203, 8208, 8234, 8239,
    8288, 8304, 12644, 12645, 65024, 65040, 65279, 65280, 65440, 65441, 65520, 65529, 113824,
    113828, 119155, 119163, 917504, 921600]

/-- Characters that may be drawn as nothing. -/
def isDefaultIgnorable (c : Char) : Bool :=
  insideBounds defaultIgnorableBounds c.toNat

end BlockVolume.Text
