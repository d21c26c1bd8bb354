/-!
Signed 64-bit decimal integers.

A sign and one or more digits, read from the left: the first digit that is none, or the first one
that takes the value out of range, ends the reading, whichever comes first. Where both are due at
one place, a digit that is none wins.
-/

namespace BlockVolume.Text.Decimal

/-- Why a text is no number. -/
inductive Error where | empty | invalidDigit | posOverflow | negOverflow
  deriving DecidableEq

/-- The name of an error. -/
def Error.name : Error → String
  | .empty => "Empty"
  | .invalidDigit => "InvalidDigit"
  | .posOverflow => "PosOverflow"
  | .negOverflow => "NegOverflow"

/-- The greatest value. -/
def maxValue : Int := 9223372036854775807

/-- The least value. -/
def minValue : Int := -9223372036854775808

/-- Appends digits to a value that is not negative. -/
def readUp : List Char → Int → Except Error Int
  | [], value => .ok value
  | c :: cs, value =>
    if !c.isDigit then .error .invalidDigit
    else
      let next := value * 10 + (c.toNat - 48 : Nat)
      if next > maxValue then .error .posOverflow else readUp cs next

/-- Appends digits to a value that is not positive. -/
def readDown : List Char → Int → Except Error Int
  | [], value => .ok value
  | c :: cs, value =>
    if !c.isDigit then .error .invalidDigit
    else
      let next := value * 10 - (c.toNat - 48 : Nat)
      if next < minValue then .error .negOverflow else readDown cs next

/-- Reads an optional sign and decimal digits. -/
def read : List Char → Except Error Int
  | [] => .error .empty
  | ['+'] | ['-'] => .error .invalidDigit
  | '+' :: cs => readUp cs 0
  | '-' :: cs => readDown cs 0
  | cs => readUp cs 0

end BlockVolume.Text.Decimal
