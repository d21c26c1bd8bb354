import BlockVolume.Text.Printable
import BlockVolume.Text.GraphemeExtend
import BlockVolume.Text.DefaultIgnorable
/-!
Quoted texts and written-out records, as diagnostics show values.

A quoted text stands between double quotes; quotes, backslashes and the usual controls have short
escapes, and what cannot be shown is written as its code point in braces.
-/

namespace BlockVolume.Text

/-- A code point in lower-case hexadecimal digits between braces. -/
def escapeCodePoint (c : Char) : List Char :=
  '\\' :: 'u' :: '\x7b' :: (Nat.toDigits 16 c.toNat ++ ['\x7d'])

/-- A sound mark of halfwidth Katakana — it extends the sign before it from a cell of its own. -/
def isHalfwidthSoundMark (c : Char) : Bool := c == '\uff9e' || c == '\uff9f'

/-- A reader of a quoted text sees the character, and sees it apart from the one before it. -/
def isVisible (c : Char) : Bool :=
  isPrintable c && !isDefaultIgnorable c && (!isGraphemeExtend c || isHalfwidthSoundMark c)

/-- The written form of one character between double quotes. -/
def escapeChar : Char → List Char
  | '\x00' => ['\\', '0']
  | '\t' => ['\\', 't']
  | '\r' => ['\\', 'r']
  | '\n' => ['\\', 'n']
  | '"' => ['\\', '"']
  | '\\' => ['\\', '\\']
  | c => if isVisible c then [c] else escapeCodePoint c

/-- A text between double quotes. -/
def quote (s : String) : String :=
  String.ofList ('"' :: (s.toList.flatMap escapeChar ++ ['"']))

/-- A list of written values between brackets. -/
def bracketed (values : List String) : String :=
  "[" ++ ", ".intercalate values ++ "]"

/-- A named record with its fields in order — a record without fields is its bare name. -/
def record (name : String) (fields : List (String × String)) : String :=
  if fields.isEmpty then name
  else
    name ++ " \x7b " ++
      ", ".intercalate (fields.map fun (field, value) => field ++ ": " ++ value) ++ " \x7d"

/-- What stands in for a value that must not be shown. -/
def redacted : String := quote "<redacted>"

end BlockVolume.Text
