import BlockVolume.Proofs.Json.Parts
/-!
The grammar of JSON.

`Written` says which bytes a value is written with, and `Document` allows blanks around them. The
relations do not mention a reader, and they ask of a string for its form alone: its bytes between
the quotes need not be UTF-8. Strings and numbers are read here, the values made of them in a module
of their own.
-/

namespace BlockVolume.Json

open BlockVolume.Text (Bytes)

variable {bytes rest raw digits whole fraction exponent literal : Bytes}

/-! ### Relations -/

/-- What stands between the quotes of a string: bytes from the space on, escapes of one letter, and
escapes of four hexadecimal digits. -/
inductive Body : Bytes → Prop
  | nil : Body []
  | plain {b : UInt8} {rest : Bytes} (printed : ¬b < 0x20) (quote : b ≠ 0x22) (bare : b ≠ 0x5C)
      (later : Body rest) : Body (b :: rest)
  | short {b : UInt8} {rest : Bytes} (known : (shortEscape? b).isSome = true) (later : Body rest) :
      Body (0x5C :: b :: rest)
  | unit {a b c d : UInt8} {rest : Bytes} (hex : (unit? a b c d).isSome = true)
      (later : Body rest) : Body (0x5C :: 0x75 :: a :: b :: c :: d :: rest)

/-- Decimal digits, at least one. -/
structure Digits (bytes : Bytes) : Prop where
  nonempty : bytes ≠ []
  decimal : ∀ b ∈ bytes, isDigitByte b = true

/-- The digits before the point: a zero alone, or digits that do not begin with one. -/
inductive Whole : Bytes → Prop
  | zero : Whole [0x30]
  | digits {bytes : Bytes} (h : Digits bytes) (nonzero : bytes.head? ≠ some 0x30) : Whole bytes

/-- A point with digits, or nothing. -/
inductive Fraction : Bytes → Prop
  | none : Fraction []
  | point {digits : Bytes} (h : Digits digits) : Fraction (0x2E :: digits)

/-- A mark, a sign or none, and digits; or nothing. -/
inductive Exponent : Bytes → Prop
  | none : Exponent []
  | plain {e : UInt8} {digits : Bytes} (mark : e = 0x65 ∨ e = 0x45) (h : Digits digits) :
      Exponent (e :: digits)
  | signed {e sign : UInt8} {digits : Bytes} (mark : e = 0x65 ∨ e = 0x45)
      (hs : sign = 0x2B ∨ sign = 0x2D) (h : Digits digits) : Exponent (e :: sign :: digits)

/-- A number without its sign. -/
inductive Magnitude : Bytes → Prop
  | mk {whole fraction exponent : Bytes} (hw : Whole whole) (hf : Fraction fraction)
      (he : Exponent exponent) : Magnitude (whole ++ (fraction ++ exponent))

/-- A number. -/
inductive Numeral : Bytes → Prop
  | plain {literal : Bytes} (h : Magnitude literal) : Numeral literal
  | minus {literal : Bytes} (h : Magnitude literal) : Numeral (0x2D :: literal)

mutual

/-- The bytes of a value. -/
inductive Written : Value → Bytes → Prop
  | null : Written .null [0x6E, 0x75, 0x6C, 0x6C]
  | yes : Written (.bool true) [0x74, 0x72, 0x75, 0x65]
  | no : Written (.bool false) [0x66, 0x61, 0x6C, 0x73, 0x65]
  | number {literal : Bytes} (h : Numeral literal) : Written (.number literal) literal
  | string {raw : Bytes} (h : Body raw) : Written (.string raw) (0x22 :: (raw ++ [0x22]))
  | emptyArray {gap : Bytes} (h : Blanks gap) : Written (.array []) (0x5B :: (gap ++ [0x5D]))
  | array {items : List Value} {text : Bytes} (h : Separated Document items text) :
      Written (.array items) (0x5B :: (text ++ [0x5D]))
  | emptyObject {gap : Bytes} (h : Blanks gap) : Written (.object []) (0x7B :: (gap ++ [0x7D]))
  | object {members : List (Bytes × Value)} {text : Bytes} (h : Separated Member members text) :
      Written (.object members) (0x7B :: (text ++ [0x7D]))

/-- The bytes of a value with blanks around it. -/
inductive Document : Value → Bytes → Prop
  | mk {value : Value} {before text after : Bytes} (hb : Blanks before) (h : Written value text)
      (ha : Blanks after) : Document value (before ++ (text ++ after))

/-- The bytes of a name, with blanks around it, and a value after a colon. -/
inductive Member : Bytes × Value → Bytes → Prop
  | mk {name : Bytes} {value : Value} {before after text : Bytes} (hb : Blanks before)
      (hn : Body name) (ha : Blanks after) (h : Document value text) :
      Member (name, value) (before ++ 0x22 :: (name ++ 0x22 :: (after ++ 0x3A :: text)))

end

/-! ### Strings -/

theorem readString_of_body (h : Body raw) (rest : Bytes) :
    readString (raw ++ 0x22 :: rest) = .ok (raw, rest) := by
  induction h with
  | nil => simp [readString]
  | plain printed quote bare later ih =>
    simp [readString, ih, printed, bare, Bind.bind, Except.bind]
  | @short b raw known later ih =>
    have single : b ≠ 0x75 := by
      rintro rfl
      simp [shortEscape?] at known
    obtain ⟨byte, known⟩ := Option.isSome_iff_exists.mp known
    rw [List.cons_append, List.cons_append, readString, ih]
    · simp [known, Bind.bind, Except.bind]
    · grind
  | unit hex later ih =>
    obtain ⟨code, hex⟩ := Option.isSome_iff_exists.mp hex
    simp [readString, ih, hex, Bind.bind, Except.bind]

theorem body_of_readString (h : readString bytes = .ok (raw, rest)) :
    Body raw ∧ bytes = raw ++ 0x22 :: rest := by
  fun_induction readString bytes generalizing raw rest with
  | case1 | case3 | case5 | case7 => cases h
  | case2 rest =>
    obtain ⟨rfl, rfl⟩ := Prod.mk.inj (Except.ok.inj h)
    exact ⟨.nil, rfl⟩
  | case4 a b c d bytes hex ih =>
    obtain ⟨⟨later, rest⟩, read, h⟩ := bind_eq_ok.mp h
    obtain ⟨rfl, rfl⟩ := Prod.mk.inj (Except.ok.inj h)
    obtain ⟨body, rfl⟩ := ih read
    exact ⟨.unit (by simpa [Option.isNone_iff_eq_none, Option.isSome_iff_ne_none] using hex) body,
      rfl⟩
  | case6 b bytes single known ih =>
    obtain ⟨⟨later, rest⟩, read, h⟩ := bind_eq_ok.mp h
    obtain ⟨rfl, rfl⟩ := Prod.mk.inj (Except.ok.inj h)
    obtain ⟨body, rfl⟩ := ih read
    exact ⟨.short (by simpa [Option.isNone_iff_eq_none, Option.isSome_iff_ne_none] using known) body,
      rfl⟩
  | case8 b bytes quote _ _ printed ih =>
    obtain ⟨⟨later, rest⟩, read, h⟩ := bind_eq_ok.mp h
    obtain ⟨rfl, rfl⟩ := Prod.mk.inj (Except.ok.inj h)
    obtain ⟨body, rfl⟩ := ih read
    obtain ⟨bare, printed⟩ : b ≠ 0x5C ∧ ¬b < 0x20 := by simpa using printed
    exact ⟨.plain printed quote bare body, rfl⟩

/-- A string is read up to the quote that closes it. -/
theorem readString_eq_ok_iff :
    readString bytes = .ok (raw, rest) ↔ Body raw ∧ bytes = raw ++ 0x22 :: rest := by
  refine ⟨body_of_readString, ?_⟩
  rintro ⟨body, rfl⟩
  exact readString_of_body body rest

/-! ### Numbers -/

theorem past_isDigitByte (h : Past isNumberByte rest) : Past isDigitByte rest := by
  intro b tail starts
  have past := h b tail starts
  simp only [isNumberByte, Bool.or_eq_false_iff] at past
  exact past.1.1.1

theorem readDigits_of_digits (h : Digits digits) (past : Past isDigitByte rest) :
    readDigits (digits ++ rest) = .ok (digits, rest) := by
  have stop : rest.takeWhile isDigitByte = [] ∧ rest.dropWhile isDigitByte = rest := by
    cases rest with
    | nil => simp
    | cons b tail => simp [past_cons.mp past]
  have some : digits.isEmpty = false := by simpa using h.nonempty
  rw [readDigits, List.takeWhile_append_of_pos h.decimal, List.dropWhile_append_of_pos h.decimal,
    stop.1, stop.2, List.append_nil]
  simp [some]

theorem digits_of_readDigits (h : readDigits bytes = .ok (digits, rest)) :
    Digits digits ∧ bytes = digits ++ rest := by
  rw [readDigits] at h
  split at h
  case isTrue => cases h
  case isFalse some =>
    obtain ⟨rfl, rfl⟩ := Prod.mk.inj (Except.ok.inj h)
    exact ⟨⟨by simpa using some, fun b hb => List.mem_takeWhile_imp hb⟩,
      List.takeWhile_append_dropWhile.symm⟩

theorem readWhole_of_whole (h : Whole whole) (past : Past isDigitByte rest) :
    readWhole (whole ++ rest) = .ok (whole, rest) := by
  cases h with
  | zero =>
    cases rest with
    | nil => rfl
    | cons b tail => simp [readWhole, past_cons.mp past]
  | digits h nonzero =>
    rw [← readDigits_of_digits h past, readWhole]
    rintro tail starts
    obtain ⟨b, others, rfl⟩ := List.exists_cons_of_ne_nil h.nonempty
    obtain ⟨rfl, -⟩ := List.cons.inj starts
    exact nonzero rfl

theorem whole_of_readWhole (h : readWhole bytes = .ok (whole, rest)) :
    Whole whole ∧ bytes = whole ++ rest := by
  rw [readWhole.eq_def] at h
  split at h
  case h_1 =>
    split at h
    case h_1 =>
      obtain ⟨rfl, rfl⟩ := Prod.mk.inj (Except.ok.inj h)
      exact ⟨.zero, rfl⟩
    case h_2 =>
      split at h
      case isTrue => cases h
      case isFalse =>
        obtain ⟨rfl, rfl⟩ := Prod.mk.inj (Except.ok.inj h)
        exact ⟨.zero, rfl⟩
  case h_2 bytes nonzero =>
    obtain ⟨digits, rfl⟩ := digits_of_readDigits h
    refine ⟨.digits digits fun zero => ?_, rfl⟩
    obtain ⟨tail, rfl⟩ := List.head?_eq_some_iff.mp zero
    exact nonzero _ rfl

theorem readFraction_of_fraction (h : Fraction fraction) (past : Past isDigitByte rest)
    (point : Past (· == 0x2E) rest) : readFraction (fraction ++ rest) = .ok (fraction, rest) := by
  cases h with
  | none =>
    rw [List.nil_append, readFraction]
    rintro tail rfl
    simp at point
  | point h =>
    rw [List.cons_append, readFraction, readDigits_of_digits h past]
    rfl

theorem fraction_of_readFraction (h : readFraction bytes = .ok (fraction, rest)) :
    Fraction fraction ∧ bytes = fraction ++ rest := by
  rw [readFraction.eq_def] at h
  split at h
  case h_1 =>
    obtain ⟨⟨digits, rest⟩, read, h⟩ := bind_eq_ok.mp h
    obtain ⟨rfl, rfl⟩ := Prod.mk.inj (Except.ok.inj h)
    obtain ⟨digits, rfl⟩ := digits_of_readDigits read
    exact ⟨.point digits, rfl⟩
  case h_2 =>
    obtain ⟨rfl, rfl⟩ := Prod.mk.inj (Except.ok.inj h)
    exact ⟨.none, rfl⟩

theorem readExponent_of_exponent (h : Exponent exponent) (past : Past isNumberByte rest) :
    readExponent (exponent ++ rest) = .ok (exponent, rest) := by
  cases h with
  | none =>
    cases rest with
    | nil => rfl
    | cons b tail =>
      have stop := past_cons.mp past
      simp only [isNumberByte, Bool.or_eq_false_iff] at stop
      simp [readExponent, stop.1.2, stop.2]
  | @plain e digits mark h =>
    obtain ⟨d, others, rfl⟩ := List.exists_cons_of_ne_nil h.nonempty
    have digit := h.decimal d List.mem_cons_self
    have unsigned : d ≠ 0x2B ∧ d ≠ 0x2D := by
      constructor <;> rintro rfl <;> exact absurd digit (by decide)
    have read := readDigits_of_digits h (past_isDigitByte past)
    rw [List.cons_append] at read
    simp [readExponent, mark, unsigned, read, Bind.bind, Except.bind]
  | signed mark hs h =>
    have read := readDigits_of_digits h (past_isDigitByte past)
    simp [readExponent, mark, hs, read, Bind.bind, Except.bind]

theorem exponent_of_readExponent (h : readExponent bytes = .ok (exponent, rest)) :
    Exponent exponent ∧ bytes = exponent ++ rest := by
  rw [readExponent.eq_def] at h
  split at h
  case h_1 =>
    obtain ⟨rfl, rfl⟩ := Prod.mk.inj (Except.ok.inj h)
    exact ⟨.none, rfl⟩
  case h_2 e tail =>
    split at h
    case isFalse =>
      obtain ⟨rfl, rfl⟩ := Prod.mk.inj (Except.ok.inj h)
      exact ⟨.none, rfl⟩
    case isTrue mark =>
      have mark : e = 0x65 ∨ e = 0x45 := by simpa using mark
      split at h
      case h_2 => cases h
      case h_1 sign tail =>
        split at h
        case isTrue hs =>
          obtain ⟨⟨digits, rest⟩, read, h⟩ := bind_eq_ok.mp h
          obtain ⟨rfl, rfl⟩ := Prod.mk.inj (Except.ok.inj h)
          obtain ⟨digits, rfl⟩ := digits_of_readDigits read
          exact ⟨.signed mark (by simpa using hs) digits, rfl⟩
        case isFalse =>
          obtain ⟨⟨digits, rest⟩, read, h⟩ := bind_eq_ok.mp h
          obtain ⟨rfl, rfl⟩ := Prod.mk.inj (Except.ok.inj h)
          obtain ⟨digits, whole⟩ := digits_of_readDigits read
          exact ⟨.plain mark digits, by rw [whole]; rfl⟩

/-! A number is read part by part: what follows a part does not go on with it. -/

theorem past_exponent (h : Exponent exponent) (past : Past isNumberByte rest) :
    Past isDigitByte (exponent ++ rest) ∧ Past (· == 0x2E) (exponent ++ rest) := by
  have marked {e : UInt8} (mark : e = 0x65 ∨ e = 0x45) (tail : Bytes) :
      Past isDigitByte (e :: tail) ∧ Past (· == 0x2E) (e :: tail) := by
    rcases mark with rfl | rfl <;> exact ⟨past_cons.mpr (by decide), past_cons.mpr (by decide)⟩
  cases h with
  | none =>
    refine ⟨past_isDigitByte past, fun b tail starts => ?_⟩
    have stop := past b tail starts
    simp only [isNumberByte, Bool.or_eq_false_iff] at stop
    exact stop.1.1.2
  | plain mark => exact marked mark _
  | signed mark => exact marked mark _

theorem past_fraction (h : Fraction fraction) (past : Past isDigitByte rest) :
    Past isDigitByte (fraction ++ rest) := by
  cases h with
  | none => exact past
  | point => exact past_cons.mpr (by decide)

/-- Reads a number after its sign. -/
def readMagnitude (bytes : Bytes) : Except Error (Bytes × Bytes) := do
  let (whole, bytes) ← readWhole bytes
  let (fraction, bytes) ← readFraction bytes
  let (exponent, bytes) ← readExponent bytes
  .ok (whole ++ (fraction ++ exponent), bytes)

theorem readMagnitude_of_magnitude (h : Magnitude literal) (past : Past isNumberByte rest) :
    readMagnitude (literal ++ rest) = .ok (literal, rest) := by
  obtain ⟨hw, hf, he⟩ := h
  obtain ⟨digit, point⟩ := past_exponent he past
  rw [readMagnitude, List.append_assoc, List.append_assoc,
    readWhole_of_whole hw (past_fraction hf digit)]
  simp only [Bind.bind, Except.bind]
  rw [readFraction_of_fraction hf digit point]
  simp only
  rw [readExponent_of_exponent he past]

theorem magnitude_of_readMagnitude (h : readMagnitude bytes = .ok (literal, rest)) :
    Magnitude literal ∧ bytes = literal ++ rest := by
  obtain ⟨⟨whole, rest₁⟩, hw, h⟩ := bind_eq_ok.mp h
  obtain ⟨⟨fraction, rest₂⟩, hf, h⟩ := bind_eq_ok.mp h
  obtain ⟨⟨exponent, rest₃⟩, he, h⟩ := bind_eq_ok.mp h
  obtain ⟨rfl, rfl⟩ := Prod.mk.inj (Except.ok.inj h)
  obtain ⟨whole, rfl⟩ := whole_of_readWhole hw
  obtain ⟨fraction, rfl⟩ := fraction_of_readFraction hf
  obtain ⟨exponent, rfl⟩ := exponent_of_readExponent he
  exact ⟨.mk whole fraction exponent, by simp⟩

theorem readNumber_minus (bytes : Bytes) :
    readNumber (0x2D :: bytes) = (readMagnitude bytes).map fun (literal, rest) =>
      (0x2D :: literal, rest) := by
  simp only [readNumber, readMagnitude, beq_self_eq_true, List.takeWhile_cons_of_pos,
    List.take_succ_cons, List.take_zero, List.length_singleton, List.drop_succ_cons,
    List.drop_zero, Bind.bind, Except.bind]
  cases readWhole bytes with
  | error e => rfl
  | ok whole =>
    dsimp only
    cases readFraction whole.2 with
    | error e => rfl
    | ok fraction =>
      dsimp only
      cases readExponent fraction.2 with
      | error e => rfl
      | ok exponent => simp [Except.map]

theorem readNumber_plain (h : Past (· == 0x2D) bytes) : readNumber bytes = readMagnitude bytes := by
  have unsigned : bytes.takeWhile (· == 0x2D) = [] := by
    cases bytes with
    | nil => rfl
    | cons b tail => simp [past_cons.mp h]
  simp [readNumber, readMagnitude, unsigned]

theorem exists_digit_of_whole (h : Whole whole) :
    ∃ b tail, whole = b :: tail ∧ isDigitByte b = true := by
  cases h with
  | zero => exact ⟨0x30, [], rfl, by decide⟩
  | digits h =>
    obtain ⟨b, tail, rfl⟩ := List.exists_cons_of_ne_nil h.nonempty
    exact ⟨b, tail, rfl, h.decimal b List.mem_cons_self⟩

theorem exists_digit_of_magnitude (h : Magnitude literal) :
    ∃ b tail, literal = b :: tail ∧ isDigitByte b = true := by
  obtain ⟨hw, hf, he⟩ := h
  obtain ⟨b, tail, rfl, digit⟩ := exists_digit_of_whole hw
  exact ⟨b, _, rfl, digit⟩

/-- A number begins with its sign or a digit. -/
theorem Numeral.exists_cons (h : Numeral literal) :
    ∃ b tail, literal = b :: tail ∧ (b == 0x2D || isDigitByte b) = true := by
  cases h with
  | minus h => exact ⟨0x2D, _, rfl, by decide⟩
  | plain h =>
    obtain ⟨b, tail, rfl, digit⟩ := exists_digit_of_magnitude h
    exact ⟨b, tail, rfl, by simp [digit]⟩

theorem ne_minus_of_digit {b : UInt8} (digit : isDigitByte b = true) : (b == 0x2D) = false := by
  refine beq_false_of_ne ?_
  rintro rfl
  exact absurd digit (by decide)

/-- A number is read to its end, which is where no byte goes on with it. -/
theorem readNumber_of_numeral (h : Numeral literal) (past : Past isNumberByte rest) :
    readNumber (literal ++ rest) = .ok (literal, rest) := by
  cases h with
  | minus h =>
    rw [List.cons_append, readNumber_minus, readMagnitude_of_magnitude h past]
    rfl
  | plain h =>
    obtain ⟨b, tail, rfl, digit⟩ := exists_digit_of_magnitude h
    have unsigned : Past (· == 0x2D) (b :: tail ++ rest) :=
      past_cons.mpr (ne_minus_of_digit digit)
    rw [readNumber_plain unsigned, readMagnitude_of_magnitude h past]

theorem numeral_of_readNumber (h : readNumber bytes = .ok (literal, rest)) :
    Numeral literal ∧ bytes = literal ++ rest := by
  -- the reader takes the sign off first, and reads on in one way
  by_cases signed : ∃ tail, bytes = 0x2D :: tail
  · obtain ⟨tail, rfl⟩ := signed
    rw [readNumber_minus] at h
    obtain ⟨⟨literal, rest⟩, read, h⟩ := map_eq_ok.mp h
    obtain ⟨rfl, rfl⟩ := Prod.mk.inj h
    obtain ⟨magnitude, rfl⟩ := magnitude_of_readMagnitude read
    exact ⟨.minus magnitude, rfl⟩
  · have unsigned : Past (· == 0x2D) bytes := by
      rintro b tail rfl
      refine beq_false_of_ne ?_
      rintro rfl
      exact signed ⟨tail, rfl⟩
    rw [readNumber_plain unsigned] at h
    obtain ⟨magnitude, whole⟩ := magnitude_of_readMagnitude h
    exact ⟨.plain magnitude, whole⟩

end BlockVolume.Json
