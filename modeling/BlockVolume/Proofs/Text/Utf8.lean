import BlockVolume.Text.Utf8
/-!
Texts read back from their UTF-8 bytes.

The bytes of a character are the front of whatever they stand before, so both decoders take an
encoded text apart into its characters. A character is read from no other bytes than its own, so
bytes are decoded exactly if they are those of a text. A smaller character has smaller bytes, so
texts are in the order of their bytes.
-/

namespace BlockVolume.Text.Utf8

variable {lead second third fourth : UInt8} {rest bytes : Bytes} {c : Char} {n more : Nat}

/-! ### Bytes by their numbers -/

theorem toNat_ofNat {n : Nat} (h : n < 256) : (UInt8.ofNat n).toNat = n := by
  simp [Nat.mod_eq_of_lt h]

theorem isTail_eq_true (h : 0x80 ≤ second.toNat ∧ second.toNat ≤ 0xBF) : isTail second = true := by
  simp only [isTail, Bool.and_eq_true, decide_eq_true_eq, UInt8.le_iff_toNat_le]
  exact h

/-- The second byte keeps overlong forms, surrogates and code points past the last plane out. -/
theorem allowsSecond_eq_true (h : 0x80 ≤ second.toNat ∧ second.toNat ≤ 0xBF)
    (long : lead.toNat = 0xE0 → 0xA0 ≤ second.toNat)
    (longest : lead.toNat = 0xF0 → 0x90 ≤ second.toNat)
    (surrogate : lead.toNat = 0xED → second.toNat ≤ 0x9F)
    (past : lead.toNat = 0xF4 → second.toNat ≤ 0x8F) :
    allowsSecond lead second = true := by
  simp only [allowsSecond, Bool.and_eq_true, decide_eq_true_eq, UInt8.le_iff_toNat_le,
    ← UInt8.toNat_inj]
  constructor
  · split
    case isTrue e => exact long e
    case isFalse =>
      split
      case isTrue e => exact longest e
      case isFalse => exact h.1
  · split
    case isTrue e => exact surrogate e
    case isFalse =>
      split
      case isTrue e => exact past e
      case isFalse => exact h.2

/-! ### Fronts of two to four bytes -/

theorem front_one (h : lead.toNat < 0x80) : front lead rest = .char (Char.ofNat lead.toNat) 0 := by
  unfold front
  rw [if_pos (UInt8.lt_iff_toNat_lt.mpr h)]

theorem front_two (hl : 0xC2 ≤ lead.toNat ∧ lead.toNat ≤ 0xDF)
    (hs : 0x80 ≤ second.toNat ∧ second.toNat ≤ 0xBF) :
    front lead (second :: rest) = .char (Char.ofNat (lead.toNat % 32 * 64 + bits second)) 1 := by
  have past : ¬lead < 0x80 := by
    simp only [UInt8.lt_iff_toNat_lt, UInt8.reduceToNat]
    omega
  have here : (0xC2 ≤ lead && lead ≤ 0xDF) = true := by
    simpa [UInt8.le_iff_toNat_le] using hl
  rw [front, if_neg past, if_pos here]
  rw [if_pos (isTail_eq_true hs)]

theorem front_three (hl : 0xE0 ≤ lead.toNat ∧ lead.toNat ≤ 0xEF)
    (hs : allowsSecond lead second = true) (ht : 0x80 ≤ third.toNat ∧ third.toNat ≤ 0xBF) :
    front lead (second :: third :: rest) =
      .char (Char.ofNat (lead.toNat % 16 * 4096 + bits second * 64 + bits third)) 2 := by
  have past : ¬lead < 0x80 := by
    simp only [UInt8.lt_iff_toNat_lt, UInt8.reduceToNat]
    omega
  have beyond : ¬(0xC2 ≤ lead && lead ≤ 0xDF) = true := by
    simp only [Bool.and_eq_true, decide_eq_true_eq, UInt8.le_iff_toNat_le, UInt8.reduceToNat]
    omega
  have here : (0xE0 ≤ lead && lead ≤ 0xEF) = true := by
    simpa [UInt8.le_iff_toNat_le] using hl
  rw [front, if_neg past, if_neg beyond, if_pos here]
  dsimp only
  rw [hs, if_neg (by simp), if_pos (isTail_eq_true ht)]

theorem front_four (hl : 0xF0 ≤ lead.toNat ∧ lead.toNat ≤ 0xF4)
    (hs : allowsSecond lead second = true) (ht : 0x80 ≤ third.toNat ∧ third.toNat ≤ 0xBF)
    (hf : 0x80 ≤ fourth.toNat ∧ fourth.toNat ≤ 0xBF) :
    front lead (second :: third :: fourth :: rest) =
      .char (Char.ofNat
        (lead.toNat % 8 * 262144 + bits second * 4096 + bits third * 64 + bits fourth)) 3 := by
  have past : ¬lead < 0x80 := by
    simp only [UInt8.lt_iff_toNat_lt, UInt8.reduceToNat]
    omega
  have beyond : ¬(0xC2 ≤ lead && lead ≤ 0xDF) = true := by
    simp only [Bool.and_eq_true, decide_eq_true_eq, UInt8.le_iff_toNat_le, UInt8.reduceToNat]
    omega
  have further : ¬(0xE0 ≤ lead && lead ≤ 0xEF) = true := by
    simp only [Bool.and_eq_true, decide_eq_true_eq, UInt8.le_iff_toNat_le, UInt8.reduceToNat]
    omega
  have here : (0xF0 ≤ lead && lead ≤ 0xF4) = true := by
    simpa [UInt8.le_iff_toNat_le] using hl
  rw [front, if_neg past, if_neg beyond, if_neg further, if_pos here]
  dsimp only
  rw [hs, if_neg (by simp), isTail_eq_true ht, if_neg (by simp), if_pos (isTail_eq_true hf)]

/-! ### One character -/

/-- Code points are no surrogates and end with the last plane. -/
theorem toNat_valid (c : Char) : c.toNat < 0xD800 ∨ 0xDFFF < c.toNat ∧ c.toNat < 0x110000 :=
  c.valid

/-- The bytes of a character are read as that character, whatever follows. -/
theorem front_utf8EncodeChar (c : Char) (rest : Bytes) :
    ∃ lead tail, String.utf8EncodeChar c = lead :: tail ∧
      front lead (tail ++ rest) = .char c tail.length := by
  have valid := toNat_valid c
  have whole : ∀ n, n = c.toNat → Char.ofNat n = c := fun n hn => hn ▸ Char.ofNat_toNat c
  have code : c.val.toNat = c.toNat := rfl
  rw [String.utf8EncodeChar, code]
  split
  case isTrue h =>
    have hl := toNat_ofNat (show c.toNat < 256 by omega)
    refine ⟨_, _, rfl, ?_⟩
    rw [front_one (by omega), whole _ hl]
    rfl
  case isFalse h₁ =>
  split
  case isTrue h =>
    have hl := toNat_ofNat (show c.toNat / 64 % 32 + 192 < 256 by omega)
    have hs := toNat_ofNat (show c.toNat % 64 + 128 < 256 by omega)
    refine ⟨_, _, rfl, ?_⟩
    rw [List.singleton_append, front_two (by omega) (by omega), bits, hl, hs, whole _ (by omega)]
    rfl
  case isFalse h₂ =>
  split
  case isTrue h =>
    have hl := toNat_ofNat (show c.toNat / 4096 % 16 + 224 < 256 by omega)
    have hs := toNat_ofNat (show c.toNat / 64 % 64 + 128 < 256 by omega)
    have ht := toNat_ofNat (show c.toNat % 64 + 128 < 256 by omega)
    refine ⟨_, _, rfl, ?_⟩
    rw [List.cons_append, List.singleton_append, front_three (by omega)
      (allowsSecond_eq_true (by omega) (by omega) (by omega) (by omega) (by omega)) (by omega),
      bits, bits, hl, hs, ht, whole _ (by omega)]
    rfl
  case isFalse h₃ =>
    have hl := toNat_ofNat (show c.toNat / 262144 % 8 + 240 < 256 by omega)
    have hs := toNat_ofNat (show c.toNat / 4096 % 64 + 128 < 256 by omega)
    have ht := toNat_ofNat (show c.toNat / 64 % 64 + 128 < 256 by omega)
    have hf := toNat_ofNat (show c.toNat % 64 + 128 < 256 by omega)
    refine ⟨_, _, rfl, ?_⟩
    rw [List.cons_append, List.cons_append, List.singleton_append, front_four (by omega)
      (allowsSecond_eq_true (by omega) (by omega) (by omega) (by omega) (by omega)) (by omega)
      (by omega), bits, bits, bits, hl, hs, ht, hf, whole _ (by omega)]
    rfl

/-- An ASCII character is one byte. -/
theorem utf8EncodeChar_of_lt {c : Char} (h : c.toNat < 0x80) :
    String.utf8EncodeChar c = [UInt8.ofNat c.toNat] := by
  rw [String.utf8EncodeChar, if_pos (show c.val.toNat ≤ 127 from Nat.le_of_lt_succ h)]
  rfl

/-- A longer character has no ASCII bytes. -/
theorem le_of_mem_utf8EncodeChar {c : Char} {b : UInt8} (h : 0x80 ≤ c.toNat)
    (hb : b ∈ String.utf8EncodeChar c) : 0x80 ≤ b.toNat := by
  have code : c.val.toNat = c.toNat := rfl
  have valid := toNat_valid c
  rw [String.utf8EncodeChar, code, if_neg (by omega)] at hb
  have tail (n : Nat) : 0x80 ≤ (UInt8.ofNat (n % 64 + 128)).toNat := by
    rw [toNat_ofNat (by omega)]
    omega
  split at hb
  · have first := toNat_ofNat (show c.toNat / 64 % 32 + 192 < 256 by omega)
    simp only [List.mem_cons, List.not_mem_nil, or_false] at hb
    rcases hb with rfl | rfl
    · omega
    · exact tail _
  split at hb
  · have first := toNat_ofNat (show c.toNat / 4096 % 16 + 224 < 256 by omega)
    simp only [List.mem_cons, List.not_mem_nil, or_false] at hb
    rcases hb with rfl | rfl | rfl
    · omega
    · exact tail _
    · exact tail _
  · have first := toNat_ofNat (show c.toNat / 262144 % 8 + 240 < 256 by omega)
    simp only [List.mem_cons, List.not_mem_nil, or_false] at hb
    rcases hb with rfl | rfl | rfl | rfl
    · omega
    · exact tail _
    · exact tail _
    · exact tail _

/-! ### Bytes that are a character -/

theorem of_isTail (h : isTail second = true) : 0x80 ≤ second.toNat ∧ second.toNat ≤ 0xBF := by
  simpa [isTail, UInt8.le_iff_toNat_le] using h

theorem of_allowsSecond (h : allowsSecond lead second = true) :
    (0x80 ≤ second.toNat ∧ second.toNat ≤ 0xBF) ∧ (lead.toNat = 0xE0 → 0xA0 ≤ second.toNat) ∧
      (lead.toNat = 0xF0 → 0x90 ≤ second.toNat) ∧ (lead.toNat = 0xED → second.toNat ≤ 0x9F) ∧
      (lead.toNat = 0xF4 → second.toNat ≤ 0x8F) := by
  simp only [allowsSecond, Bool.and_eq_true, decide_eq_true_eq, UInt8.le_iff_toNat_le,
    ← UInt8.toNat_inj, apply_ite UInt8.toNat, UInt8.reduceToNat] at h
  grind

/-- The code point that a character was made of. -/
theorem val_ofNat (valid : n < 0xD800 ∨ 0xDFFF < n ∧ n < 0x110000) :
    (Char.ofNat n).val.toNat = n := by
  rw [Char.ofNat, dif_pos valid]
  rfl

theorem ofNat_eq (b : UInt8) (h : n = b.toNat) : UInt8.ofNat n = b := by
  rw [h, UInt8.ofNat_toNat]

theorem utf8EncodeChar_two (hl : 0xC2 ≤ lead.toNat ∧ lead.toNat ≤ 0xDF)
    (hs : 0x80 ≤ second.toNat ∧ second.toNat ≤ 0xBF) :
    String.utf8EncodeChar (Char.ofNat (lead.toNat % 32 * 64 + bits second)) = [lead, second] := by
  rw [bits, String.utf8EncodeChar, val_ofNat (by omega), if_neg (by omega), if_pos (by omega),
    ofNat_eq lead (by omega), ofNat_eq second (by omega)]

theorem utf8EncodeChar_three (hl : 0xE0 ≤ lead.toNat ∧ lead.toNat ≤ 0xEF)
    (hs : allowsSecond lead second = true) (ht : 0x80 ≤ third.toNat ∧ third.toNat ≤ 0xBF) :
    String.utf8EncodeChar
      (Char.ofNat (lead.toNat % 16 * 4096 + bits second * 64 + bits third)) =
        [lead, second, third] := by
  have allowed := of_allowsSecond hs
  rw [bits, bits, String.utf8EncodeChar, val_ofNat (by omega), if_neg (by omega),
    if_neg (by omega), if_pos (by omega), ofNat_eq lead (by omega),
    ofNat_eq second (by omega), ofNat_eq third (by omega)]

theorem utf8EncodeChar_four (hl : 0xF0 ≤ lead.toNat ∧ lead.toNat ≤ 0xF4)
    (hs : allowsSecond lead second = true) (ht : 0x80 ≤ third.toNat ∧ third.toNat ≤ 0xBF)
    (hf : 0x80 ≤ fourth.toNat ∧ fourth.toNat ≤ 0xBF) :
    String.utf8EncodeChar (Char.ofNat
      (lead.toNat % 8 * 262144 + bits second * 4096 + bits third * 64 + bits fourth)) =
        [lead, second, third, fourth] := by
  have allowed := of_allowsSecond hs
  rw [bits, bits, bits, String.utf8EncodeChar, val_ofNat (by omega), if_neg (by omega),
    if_neg (by omega), if_neg (by omega), ofNat_eq lead (by omega),
    ofNat_eq second (by omega), ofNat_eq third (by omega),
    ofNat_eq fourth (by omega)]

/-- A character is read from its own bytes and no others. -/
theorem utf8EncodeChar_of_front (h : front lead rest = .char c more) :
    String.utf8EncodeChar c ++ rest.drop more = lead :: rest := by
  unfold front at h
  simp only [UInt8.lt_iff_toNat_lt, UInt8.le_iff_toNat_le, UInt8.reduceToNat, Bool.and_eq_true,
    decide_eq_true_eq] at h
  split at h
  case isTrue one =>
    obtain ⟨rfl, rfl⟩ := Front.char.inj h
    rw [String.utf8EncodeChar, val_ofNat (by omega), if_pos (by omega), UInt8.ofNat_toNat]
    rfl
  split at h
  case isTrue two =>
    split at h
    case h_2 => cases h
    split at h
    case isFalse => cases h
    case isTrue tail =>
      obtain ⟨rfl, rfl⟩ := Front.char.inj h
      rw [utf8EncodeChar_two two (of_isTail tail)]
      rfl
  split at h
  case isTrue three =>
    split at h
    case h_1 =>
      split at h
      case isTrue => cases h
      case isFalse allowed =>
        split at h
        case isFalse => cases h
        case isTrue tail =>
          obtain ⟨rfl, rfl⟩ := Front.char.inj h
          rw [utf8EncodeChar_three three (by simpa using allowed) (of_isTail tail)]
          rfl
    all_goals grind
  split at h
  case isTrue four =>
    split at h
    case h_1 =>
      split at h
      case isTrue => cases h
      case isFalse allowed =>
        split at h
        case isTrue => cases h
        case isFalse third =>
          split at h
          case isFalse => cases h
          case isTrue fourth =>
            obtain ⟨rfl, rfl⟩ := Front.char.inj h
            rw [utf8EncodeChar_four four (by simpa using allowed) (of_isTail (by simpa using third))
              (of_isTail fourth)]
            rfl
    all_goals grind
  cases h

/-! ### Texts -/

@[simp] theorem encode_nil : encode [] = [] := rfl

@[simp] theorem encode_cons (c : Char) (cs : List Char) :
    encode (c :: cs) = String.utf8EncodeChar c ++ encode cs := rfl

theorem encode_append (cs ds : List Char) : encode (cs ++ ds) = encode cs ++ encode ds :=
  List.flatMap_append

/-- An encoded text is well-formed, and decoded as what it was. -/
@[simp] theorem decode?_encode (cs : List Char) : decode? (encode cs) = some cs := by
  induction cs with
  | nil => rw [encode_nil, decode?]
  | cons c cs ih =>
    obtain ⟨lead, tail, bytes, front⟩ := front_utf8EncodeChar c (encode cs)
    rw [encode_cons, bytes, List.cons_append, decode?, front]
    dsimp only
    rw [List.drop_left, ih]
    rfl

/-- Lossy decoding loses nothing of an encoded text. -/
@[simp] theorem decodeLossy_encode (cs : List Char) : decodeLossy (encode cs) = cs := by
  induction cs with
  | nil => rw [encode_nil, decodeLossy]
  | cons c cs ih =>
    obtain ⟨lead, tail, bytes, front⟩ := front_utf8EncodeChar c (encode cs)
    rw [encode_cons, bytes, List.cons_append, decodeLossy, front]
    dsimp only
    rw [List.drop_left, ih]

/-- What bytes are decoded as is encoded as just these bytes. -/
theorem encode_of_decode? {cs : List Char} (h : decode? bytes = some cs) : encode cs = bytes := by
  fun_induction decode? bytes generalizing cs with
  | case1 =>
    obtain rfl := Option.some.inj h
    rfl
  | case2 lead rest c more read ih =>
    obtain ⟨later, decoded, rfl⟩ := Option.map_eq_some_iff.mp h
    rw [encode_cons, ih decoded, utf8EncodeChar_of_front read]
  | case3 => cases h

/-- Bytes are well-formed exactly if they are the bytes of a text, which they are decoded as. -/
theorem decode?_eq_some_iff {cs : List Char} : decode? bytes = some cs ↔ encode cs = bytes := by
  refine ⟨encode_of_decode?, ?_⟩
  rintro rfl
  exact decode?_encode cs

/-! ### Order -/

theorem ofNat_cons_lt {m n : Nat} {other : Bytes} (hm : m < 256) (hn : n < 256) :
    UInt8.ofNat m :: rest < UInt8.ofNat n :: other ↔ m < n ∨ m = n ∧ rest < other := by
  rw [List.cons_lt_cons_iff, UInt8.lt_iff_toNat_lt, ← UInt8.toNat_inj, toNat_ofNat hm,
    toNat_ofNat hn]

/-- A smaller character has smaller bytes, whatever follows. -/
theorem utf8EncodeChar_lt {c d : Char} (h : c < d) (rest other : Bytes) :
    String.utf8EncodeChar c ++ rest < String.utf8EncodeChar d ++ other := by
  have less : c.toNat < d.toNat := h
  have valid := toNat_valid c
  have valid' := toNat_valid d
  have code (c : Char) : c.val.toNat = c.toNat := rfl
  rw [String.utf8EncodeChar, String.utf8EncodeChar, code, code]
  generalize c.toNat = m at *
  generalize d.toNat = n at *
  -- the digits to the base 64, the first of which is small
  have second := Nat.div_div_eq_div_mul m 64 64
  have second' := Nat.div_div_eq_div_mul n 64 64
  have third := Nat.div_div_eq_div_mul m 4096 64
  have third' := Nat.div_div_eq_div_mul n 4096 64
  have first : m / 262144 / 8 = 0 := by omega
  have first' : n / 262144 / 8 = 0 := by omega
  repeat' split
  all_goals
    simp (disch := omega) only [List.cons_append, List.nil_append, ofNat_cons_lt]
    omega

theorem encode_lt {cs ds : List Char} (h : cs < ds) : encode cs < encode ds := by
  induction cs generalizing ds with
  | nil =>
    cases ds with
    | nil => exact absurd h (List.lt_irrefl [])
    | cons d ds =>
      obtain ⟨lead, tail, bytes, -⟩ := front_utf8EncodeChar d []
      rw [encode_cons, bytes]
      exact List.nil_lt_cons _ _
  | cons c cs ih =>
    cases ds with
    | nil => exact absurd h (List.not_lt_nil _)
    | cons d ds =>
      rcases List.cons_lt_cons_iff.mp h with less | ⟨rfl, less⟩
      · exact utf8EncodeChar_lt less _ _
      · exact List.append_left_lt (ih less)

/-- Strings are in the order of their bytes. -/
theorem ofString_lt {s t : String} (h : s < t) : ofString s < ofString t :=
  encode_lt (String.lt_iff.mp h)

end BlockVolume.Text.Utf8
