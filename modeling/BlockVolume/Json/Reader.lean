import BlockVolume.Json.Value
/-!
Reading a JSON document from bytes.

A document is one value with blanks around it. The reader goes down one level for every bracket it
opens, so the number of bytes bounds its depth.
-/

namespace BlockVolume.Json

open BlockVolume.Text (Bytes)

/-- The blanks of JSON: space, line feed, tab, carriage return. -/
def isBlankByte (b : UInt8) : Bool :=
  b == 0x20 || b == 0x0A || b == 0x09 || b == 0x0D

/-- Skips blanks. -/
def skipBlanks (bytes : Bytes) : Bytes :=
  bytes.dropWhile isBlankByte

/-- Decimal digits. -/
def isDigitByte (b : UInt8) : Bool := 0x30 ≤ b && b ≤ 0x39

/-- The error for input that does not go on as it must. -/
def unexpected : Bytes → Error
  | [] => .unexpectedEnd
  | b :: _ => .unexpectedByte b

/-- Reads a given word. -/
def readWord : Bytes → Bytes → Except Error Bytes
  | [], rest => .ok rest
  | w :: ws, b :: rest => if w == b then readWord ws rest else .error (.unexpectedByte b)
  | _ :: _, [] => .error .unexpectedEnd

/-- Reads a string after its opening quote: the raw bytes, and the rest after the closing quote. -/
def readString : Bytes → Except Error (Bytes × Bytes)
  | [] => .error .unexpectedEnd
  | 0x22 :: rest => .ok ([], rest)
  | 0x5C :: 0x75 :: a :: b :: c :: d :: rest =>
    if (unit? a b c d).isNone then .error .brokenString
    else do
      let (raw, rest) ← readString rest
      .ok (0x5C :: 0x75 :: a :: b :: c :: d :: raw, rest)
  | 0x5C :: b :: rest =>
    if (shortEscape? b).isNone then .error .brokenString
    else do
      let (raw, rest) ← readString rest
      .ok (0x5C :: b :: raw, rest)
  | b :: rest =>
    if b == 0x5C || b < 0x20 then .error .brokenString
    else do
      let (raw, rest) ← readString rest
      .ok (b :: raw, rest)

/-- Reads one or more digits. -/
def readDigits (bytes : Bytes) : Except Error (Bytes × Bytes) :=
  let digits := bytes.takeWhile isDigitByte
  let rest := bytes.dropWhile isDigitByte
  if digits.isEmpty then .error (unexpected rest) else .ok (digits, rest)

/-- Reads the digits before the point: a zero alone, or digits that do not start with one. -/
def readWhole : Bytes → Except Error (Bytes × Bytes)
  | 0x30 :: rest =>
    match rest with
    | [] => .ok ([0x30], [])
    | b :: tail => if isDigitByte b then .error (.unexpectedByte b) else .ok ([0x30], b :: tail)
  | bytes => readDigits bytes

/-- Reads a point and digits, if there is a point. -/
def readFraction : Bytes → Except Error (Bytes × Bytes)
  | 0x2E :: rest => do
    let (digits, rest) ← readDigits rest
    .ok (0x2E :: digits, rest)
  | bytes => .ok ([], bytes)

/-- Reads an exponent, if there is one. -/
def readExponent : Bytes → Except Error (Bytes × Bytes)
  | [] => .ok ([], [])
  | e :: rest =>
    if e == 0x65 || e == 0x45 then
      match rest with
      | sign :: tail =>
        if sign == 0x2B || sign == 0x2D then do
          let (digits, rest) ← readDigits tail
          .ok (e :: sign :: digits, rest)
        else do
          let (digits, rest) ← readDigits rest
          .ok (e :: digits, rest)
      | [] => .error .unexpectedEnd
    else .ok ([], e :: rest)

/-- Reads a number: an optional minus sign, whole digits, a fraction, an exponent. -/
def readNumber (bytes : Bytes) : Except Error (Bytes × Bytes) := do
  let sign := bytes.takeWhile (· == 0x2D) |>.take 1
  let bytes := bytes.drop sign.length
  let (whole, bytes) ← readWhole bytes
  let (fraction, bytes) ← readFraction bytes
  let (exponent, bytes) ← readExponent bytes
  .ok (sign ++ whole ++ fraction ++ exponent, bytes)

mutual

/-- Reads one value after blanks; `depth` bounds how many brackets may be open. -/
def readValue (depth : Nat) (bytes : Bytes) : Except Error (Value × Bytes) :=
  match skipBlanks bytes with
  | [] => .error .unexpectedEnd
  | 0x6E :: rest => (readWord [0x75, 0x6C, 0x6C] rest).map fun rest => (.null, rest)
  | 0x74 :: rest => (readWord [0x72, 0x75, 0x65] rest).map fun rest => (.bool true, rest)
  | 0x66 :: rest => (readWord [0x61, 0x6C, 0x73, 0x65] rest).map fun rest => (.bool false, rest)
  | 0x22 :: rest => (readString rest).map fun (raw, rest) => (.string raw, rest)
  | 0x5B :: rest =>
    match depth with
    | 0 => .error .unexpectedEnd
    | depth + 1 =>
      match skipBlanks rest with
      | 0x5D :: rest => .ok (.array [], rest)
      | rest => (readItems depth depth rest).map fun (items, rest) => (.array items, rest)
  | 0x7B :: rest =>
    match depth with
    | 0 => .error .unexpectedEnd
    | depth + 1 =>
      match skipBlanks rest with
      | 0x7D :: rest => .ok (.object [], rest)
      | rest => (readMembers depth depth rest).map fun (members, rest) => (.object members, rest)
  | b :: rest =>
    if b == 0x2D || isDigitByte b then
      (readNumber (b :: rest)).map fun (literal, rest) => (.number literal, rest)
    else .error (.unexpectedByte b)
termination_by (depth, 0)

/-- Reads the items of an array up to its closing bracket, `count` items at most. -/
def readItems (depth count : Nat) (bytes : Bytes) : Except Error (List Value × Bytes) :=
  match count with
  | 0 => .error .unexpectedEnd
  | count + 1 => do
    let (item, rest) ← readValue depth bytes
    match skipBlanks rest with
    | 0x5D :: rest => .ok ([item], rest)
    | 0x2C :: rest =>
      let (items, rest) ← readItems depth count rest
      .ok (item :: items, rest)
    | rest => .error (unexpected rest)
termination_by (depth, count + 1)

/-- Reads the members of an object up to its closing brace, `count` members at most. -/
def readMembers (depth count : Nat) (bytes : Bytes) :
    Except Error (List (Bytes × Value) × Bytes) :=
  match count with
  | 0 => .error .unexpectedEnd
  | count + 1 =>
    match skipBlanks bytes with
    | 0x22 :: rest => do
      let (name, rest) ← readString rest
      match skipBlanks rest with
      | 0x3A :: rest =>
        let (value, rest) ← readValue depth rest
        match skipBlanks rest with
        | 0x7D :: rest => .ok ([(name, value)], rest)
        | 0x2C :: rest =>
          let (members, rest) ← readMembers depth count rest
          .ok ((name, value) :: members, rest)
        | rest => .error (unexpected rest)
      | rest => .error (unexpected rest)
    | rest => .error (unexpected rest)
termination_by (depth, count + 1)

end

/-- Reads a whole document. -/
def read (bytes : Bytes) : Except Error Value := do
  let (value, rest) ← readValue bytes.length bytes
  match skipBlanks rest with
  | [] => .ok value
  | _ => .error .trailingBytes

end BlockVolume.Json
