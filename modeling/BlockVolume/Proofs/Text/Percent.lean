import BlockVolume.Proofs.Text.Utf8
import BlockVolume.Text.Percent
/-!
Texts read back from their percent-encoding.

Each byte is read back from its written form, so decoding gives the bytes of a text back. A written
form is made of percent signs and unreserved characters: the marks that URLs are cut at do not stand
in it. `Written` tells the form byte by byte, and no text has two.
-/

namespace BlockVolume.Text.Percent

variable {b : UInt8} {c : Char} {n : Nat} {cs : List Char} {bytes : Bytes}

/-! ### One byte -/

theorem hexValue?_hexDigit (h : n < 16) : hexValue? (hexDigit n) = some n := by
  revert n
  decide

/-- Unreserved bytes are ASCII, and none is the percent sign. -/
theorem toNat_of_isUnreserved (h : isUnreserved b = true) : b.toNat < 0x80 ∧ b.toNat ≠ 0x25 := by
  simp only [isUnreserved, Bool.or_eq_true, Bool.and_eq_true, decide_eq_true_eq, beq_iff_eq,
    UInt8.le_iff_toNat_le, ← UInt8.toNat_inj, UInt8.reduceToNat] at h
  omega

/-- The character of an unreserved byte. -/
theorem toNat_ofNat_of_isUnreserved (h : isUnreserved b = true) :
    (Char.ofNat b.toNat).toNat = b.toNat := by
  have ascii := (toNat_of_isUnreserved h).1
  rw [Char.ofNat, dif_pos (Or.inl (by omega))]
  rfl

theorem decodeChars_escape (b : UInt8) (rest : List Char) :
    decodeChars (escape b ++ rest) = b :: decodeChars rest := by
  have bound := b.toNat_lt
  have high := hexValue?_hexDigit (show b.toNat / 16 < 16 by omega)
  have low := hexValue?_hexDigit (show b.toNat % 16 < 16 by omega)
  simp only [escape, List.cons_append, List.nil_append, decodeChars, high, low]
  rw [Nat.div_add_mod', UInt8.ofNat_toNat]

theorem decodeChars_cons (h : c ≠ '%') (rest : List Char) :
    decodeChars (c :: rest) = String.utf8EncodeChar c ++ decodeChars rest := by
  rw [decodeChars]
  rintro _ _ _ rfl
  exact absurd rfl h

theorem decodeChars_encodeByte (b : UInt8) (rest : List Char) :
    decodeChars (encodeByte b ++ rest) = b :: decodeChars rest := by
  rw [encodeByte]
  split
  case isTrue plain =>
    obtain ⟨ascii, noPercent⟩ := toNat_of_isUnreserved plain
    have code := toNat_ofNat_of_isUnreserved plain
    have ne : Char.ofNat b.toNat ≠ '%' := by
      intro same
      rw [same] at code
      exact noPercent code.symm
    rw [List.singleton_append, decodeChars_cons ne, Utf8.utf8EncodeChar_of_lt (by rwa [code]), code,
      UInt8.ofNat_toNat]
    rfl
  case isFalse => exact decodeChars_escape b rest

/-! ### Texts -/

@[simp] theorem decodeChars_encodeBytes (bytes : Bytes) : decodeChars (encodeBytes bytes) = bytes := by
  induction bytes with
  | nil => rfl
  | cons b bytes ih =>
    rw [encodeBytes, List.flatMap_cons, decodeChars_encodeByte]
    exact congrArg (b :: ·) ih

/-- Decoding gives the bytes of a text back. -/
@[simp] theorem decode_encode (s : String) : decode (encode s) = Utf8.ofString s := by
  rw [decode, encode, String.toList_ofList, decodeChars_encodeBytes]

/-- The characters of written forms. -/
def isWritten (c : Char) : Bool :=
  c == '%' || (c.toNat < 0x80 && isUnreserved (UInt8.ofNat c.toNat))

theorem isWritten_hexDigit (h : n < 16) : isWritten (hexDigit n) = true := by
  revert n
  decide

theorem isWritten_of_mem_encodeByte (h : c ∈ encodeByte b) : isWritten c = true := by
  have bound := b.toNat_lt
  rw [encodeByte] at h
  split at h
  case isTrue plain =>
    obtain rfl := List.mem_singleton.mp h
    have code := toNat_ofNat_of_isUnreserved plain
    have ascii := (toNat_of_isUnreserved plain).1
    simp [isWritten, code, ascii, plain]
  case isFalse =>
    simp only [escape, List.mem_cons, List.not_mem_nil, or_false] at h
    rcases h with rfl | rfl | rfl
    · rfl
    · exact isWritten_hexDigit (by omega)
    · exact isWritten_hexDigit (by omega)

/-- A written form holds no other characters. -/
theorem isWritten_of_mem_encode {s : String} (h : c ∈ (encode s).toList) : isWritten c = true := by
  rw [encode, String.toList_ofList] at h
  obtain ⟨b, -, hb⟩ := List.mem_flatMap.mp h
  exact isWritten_of_mem_encodeByte hb

/-! ### The form of what is written -/

/-- The characters that stand for themselves: ASCII letters and digits, and four marks. -/
def isPlain (c : Char) : Bool :=
  c.isAlphanum || ['-', '_', '.', '~'].contains c

/-- The upper-case hexadecimal digits, each at the place of its value. -/
def upperDigits : List Char := "0123456789ABCDEF".toList

/-- A text is the written form of some bytes: a plain character stands for its own byte, and every
other byte is a percent sign and two upper-case digits. -/
inductive Written : List Char → Bytes → Prop where
  | nil : Written [] []
  | plain {c : Char} {cs : List Char} {bytes : Bytes} (plain : isPlain c = true)
      (rest : Written cs bytes) : Written (c :: cs) (UInt8.ofNat c.toNat :: bytes)
  | escape {h l : Nat} {high low : Char} {cs : List Char} {bytes : Bytes}
      (strange : isPlain (Char.ofNat (h * 16 + l)) = false)
      (isHigh : upperDigits[h]? = some high) (isLow : upperDigits[l]? = some low)
      (rest : Written cs bytes) :
      Written ('%' :: high :: low :: cs) (UInt8.ofNat (h * 16 + l) :: bytes)

theorem isUnreserved_ofNat (h : n < 256) :
    isUnreserved (UInt8.ofNat n) = isPlain (Char.ofNat n) := by
  revert n
  decide +kernel

theorem toNat_of_isPlain (h : isPlain c = true) : c.toNat < 256 := by
  have ranges : c.isAlphanum = (decide (65 ≤ c.val ∧ c.val ≤ 90) ||
      (97 ≤ c.val && c.val ≤ 122) || (48 ≤ c.val && c.val ≤ 57)) := rfl
  simp only [isPlain, ranges, Bool.or_eq_true, Bool.and_eq_true, decide_eq_true_eq,
    UInt32.le_iff_toNat_le, List.contains_iff_mem, List.mem_cons, List.not_mem_nil, or_false] at h
  rcases h with ((⟨-, le⟩ | ⟨-, le⟩) | ⟨-, le⟩) | rfl | rfl | rfl | rfl
  · exact Nat.lt_of_le_of_lt le (by decide)
  · exact Nat.lt_of_le_of_lt le (by decide)
  · exact Nat.lt_of_le_of_lt le (by decide)
  all_goals decide

theorem getElem?_upperDigits : upperDigits[n]? = some c ↔ n < 16 ∧ c = hexDigit n := by
  have all : ∀ n < 16, upperDigits[n]? = some (hexDigit n) := by decide
  constructor
  · intro digit
    have bound : n < 16 := (List.getElem?_eq_some_iff.mp digit).1
    rw [all n bound] at digit
    exact ⟨bound, (Option.some.inj digit).symm⟩
  · rintro ⟨bound, rfl⟩
    exact all n bound

theorem encodeByte_of_isPlain (plain : isPlain c = true) :
    encodeByte (UInt8.ofNat c.toNat) = [c] := by
  have bound := toNat_of_isPlain plain
  have unreserved : isUnreserved (UInt8.ofNat c.toNat) = true := by
    rw [isUnreserved_ofNat bound, Char.ofNat_toNat, plain]
  rw [encodeByte, if_pos unreserved, Utf8.toNat_ofNat bound, Char.ofNat_toNat]

theorem encodeByte_of_digits {h l : Nat} {high low : Char}
    (strange : isPlain (Char.ofNat (h * 16 + l)) = false) (isHigh : upperDigits[h]? = some high)
    (isLow : upperDigits[l]? = some low) :
    encodeByte (UInt8.ofNat (h * 16 + l)) = ['%', high, low] := by
  obtain ⟨hh, rfl⟩ := getElem?_upperDigits.mp isHigh
  obtain ⟨hl, rfl⟩ := getElem?_upperDigits.mp isLow
  have bound : h * 16 + l < 256 := by omega
  have quotient : (h * 16 + l) / 16 = h := by omega
  have remainder : (h * 16 + l) % 16 = l := by omega
  rw [encodeByte, isUnreserved_ofNat bound, strange, escape, Utf8.toNat_ofNat bound, quotient,
    remainder]
  rfl

/-- The form of a byte goes before that of others. -/
theorem Written.cons (b : UInt8) (rest : Written cs bytes) :
    Written (encodeByte b ++ cs) (b :: bytes) := by
  have bound := b.toNat_lt
  have unreserved : isUnreserved b = isPlain (Char.ofNat b.toNat) := by
    rw [← isUnreserved_ofNat bound, UInt8.ofNat_toNat]
  rw [encodeByte]
  split
  case isTrue own =>
    have step := Written.plain (unreserved ▸ own) rest
    rwa [toNat_ofNat_of_isUnreserved own, UInt8.ofNat_toNat] at step
  case isFalse other =>
    have whole : b.toNat / 16 * 16 + b.toNat % 16 = b.toNat := Nat.div_add_mod' ..
    have strange : isPlain (Char.ofNat (b.toNat / 16 * 16 + b.toNat % 16)) = false := by
      rw [whole, ← unreserved, Bool.eq_false_iff]
      exact other
    have step := Written.escape strange (getElem?_upperDigits.mpr ⟨by omega, rfl⟩)
      (getElem?_upperDigits.mpr ⟨by omega, rfl⟩) rest
    rwa [whole, UInt8.ofNat_toNat] at step

/-- Bytes have one written form: those of each byte, one after the other. -/
theorem written_iff : Written cs bytes ↔ cs = encodeBytes bytes := by
  constructor
  · intro written
    induction written with
    | nil => rfl
    | plain plain _ ih =>
      rw [encodeBytes, List.flatMap_cons, encodeByte_of_isPlain plain, ih]
      rfl
    | escape strange isHigh isLow _ ih =>
      rw [encodeBytes, List.flatMap_cons, encodeByte_of_digits strange isHigh isLow, ih]
      rfl
  · rintro rfl
    induction bytes with
    | nil => exact .nil
    | cons b bytes ih => exact ih.cons b

theorem encode_append (s t : String) : encode (s ++ t) = encode s ++ encode t := by
  rw [encode, Utf8.ofString, String.toList_append, Utf8.encode_append, encodeBytes,
    List.flatMap_append, String.ofList_append]
  rfl

/-- Every text has one written form, in which nothing stands but plain characters and percent signs
with two upper-case digits after each. Decoding the form gives the bytes of the text back. The form
of two texts, one after the other, is the form of the first and then that of the second. -/
theorem encode_faithful (s t : String) :
    (∀ text : String, Written text.toList (Utf8.ofString s) ↔ text = encode s) ∧
    decode (encode s) = Utf8.ofString s ∧ encode (s ++ t) = encode s ++ encode t := by
  refine ⟨fun text => ?_, decode_encode s, encode_append s t⟩
  rw [written_iff, encode, ← String.toList_inj, String.toList_ofList]

example : encode "a b/ä~" = "a%20b%2F%C3%A4~" := by decide

end BlockVolume.Text.Percent
