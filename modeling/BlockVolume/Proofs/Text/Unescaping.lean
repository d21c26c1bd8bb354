import BlockVolume.Proofs.Text.Octal
import Mathlib.Logic.Relator
/-!
Octal escapes, byte by byte.

`Unescaped` says what bytes are read as and does not mention a reader: a backslash and three octal
digits are read as the byte of their value, if a byte has it, and every other byte as itself. The
reader takes a plus sign for a first digit as well. Such an escape takes a backslash away that the
rule leaves where it is, and lossy decoding neither makes backslashes nor drops any, so the reader
follows the rule exactly where no plus sign stands between a backslash and two octal digits.
-/

namespace BlockVolume.Text

variable {bytes rest out other : Bytes} {b x y z byte : UInt8} {m n : Nat}

namespace Octal

/-! ### The rule -/

/-- The byte of an octal digit. -/
def Digit (b : UInt8) (n : Nat) : Prop := n < 8 ∧ b = UInt8.ofNat (48 + n)

/-- A digit, or a plus sign for zero. -/
def SignedDigit (b : UInt8) (n : Nat) : Prop := Digit b n ∨ b = 0x2B ∧ n = 0

/-- Three bytes that stand, after a backslash, for one: octal digits that have the value of a byte.
`First` says which bytes are digits in the first place. -/
def IsEscape (First : UInt8 → Nat → Prop) (x y z byte : UInt8) : Prop :=
  ∃ i j k, First x i ∧ Digit y j ∧ Digit z k ∧ i * 64 + j * 8 + k ≤ 255 ∧
    byte = UInt8.ofNat (i * 64 + j * 8 + k)

/-- What bytes are read as, from the left: an escape as the byte that it stands for, and where none
begins, one byte as itself. -/
inductive Unescaped (First : UInt8 → Nat → Prop) : Bytes → Bytes → Prop
  | nil : Unescaped First [] []
  | escape {x y z byte : UInt8} {rest out : Bytes} (h : IsEscape First x y z byte)
      (later : Unescaped First rest out) :
      Unescaped First (0x5C :: x :: y :: z :: rest) (byte :: out)
  | copy {b : UInt8} {rest out : Bytes}
      (plain : ∀ x y z byte after, IsEscape First x y z byte →
        b :: rest ≠ 0x5C :: x :: y :: z :: after)
      (later : Unescaped First rest out) : Unescaped First (b :: rest) (b :: out)

/-- A backslash, a plus sign and two octal digits stand among the bytes. -/
def HasSigned (bytes : Bytes) : Prop :=
  ∃ y z j k, Digit y j ∧ Digit z k ∧ [0x5C, 0x2B, y, z] <:+: bytes

theorem Digit.toNat (h : Digit b n) : b.toNat = 48 + n := by
  obtain ⟨small, rfl⟩ := h
  exact Utf8.toNat_ofNat (by omega)

theorem digit_unique : Relator.RightUnique Digit := by
  intro b m n h h'
  have hm := h.toNat
  have hn := h'.toNat
  omega

theorem signedDigit_unique : Relator.RightUnique SignedDigit := by
  intro b m n h h'
  rcases h with h | ⟨rfl, rfl⟩ <;> rcases h' with h' | ⟨plus, rfl⟩
  · exact digit_unique h h'
  · have hm := h.toNat
    simp [plus] at hm
    omega
  · have hn := h'.toNat
    simp at hn
    omega
  · rfl

theorem Digit.ne_backslash (h : Digit b n) : b ≠ 0x5C := by
  rintro rfl
  have code := h.toNat
  have small := h.1
  simp at code
  omega

theorem Digit.ne_plus (h : Digit b n) : b ≠ 0x2B := by
  rintro rfl
  have code := h.toNat
  simp at code
  omega

section

variable {First : UInt8 → Nat → Prop}

theorem IsEscape.unique (single : Relator.RightUnique First) {byte' : UInt8}
    (h : IsEscape First x y z byte) (h' : IsEscape First x y z byte') : byte = byte' := by
  obtain ⟨i, j, k, hi, hj, hk, -, rfl⟩ := h
  obtain ⟨i', j', k', hi', hj', hk', -, rfl⟩ := h'
  rw [single hi hi', digit_unique hj hj', digit_unique hk hk']

/-- Bytes are read in one way. -/
theorem Unescaped.unique (single : Relator.RightUnique First)
    (h : Unescaped First bytes out) (h' : Unescaped First bytes other) : out = other := by
  induction h generalizing other with
  | nil =>
    cases h'
    rfl
  | escape escape later ih =>
    cases h' with
    | escape escape' later' => rw [escape.unique single escape', ih later']
    | copy plain later' => exact absurd rfl (plain _ _ _ _ _ escape)
  | copy plain later ih =>
    cases h' with
    | escape escape' later' => exact absurd rfl (plain _ _ _ _ _ escape')
    | copy plain' later' => rw [ih later']

theorem Unescaped.iff_eq (single : Relator.RightUnique First) (h : Unescaped First bytes out) :
    Unescaped First bytes other ↔ other = out := by
  constructor
  · intro h'
    exact h'.unique single h
  · rintro rfl
    exact h

/-- All bytes are read. -/
theorem exists_unescaped (First : UInt8 → Nat → Prop) (bytes : Bytes) :
    ∃ out, Unescaped First bytes out := by
  induction hn : bytes.length using Nat.strong_induction_on generalizing bytes with
  | _ n ih =>
    subst hn
    cases bytes with
    | nil => exact ⟨[], .nil⟩
    | cons b rest =>
      by_cases begins : ∃ x y z byte after, IsEscape First x y z byte ∧
          b :: rest = 0x5C :: x :: y :: z :: after
      · obtain ⟨x, y, z, byte, after, escape, begins⟩ := begins
        obtain ⟨out, later⟩ := ih after.length (by simp [begins]; omega) after rfl
        rw [begins]
        exact ⟨byte :: out, .escape escape later⟩
      · obtain ⟨out, later⟩ := ih rest.length (by simp) rest rfl
        refine ⟨b :: out, .copy (fun x y z byte after escape same => ?_) later⟩
        exact begins ⟨x, y, z, byte, after, escape, same⟩

theorem Unescaped.of_ne (h : Unescaped First (b :: rest) out) (ne : b ≠ 0x5C) :
    ∃ later, out = b :: later ∧ Unescaped First rest later := by
  cases h with
  | escape => exact absurd rfl ne
  | copy plain later => exact ⟨_, rfl, later⟩

/-- Bytes without a backslash are read as themselves. -/
theorem Unescaped.append {front : Bytes} (plain : ∀ b ∈ front, b ≠ 0x5C)
    (later : Unescaped First rest out) : Unescaped First (front ++ rest) (front ++ out) := by
  induction front with
  | nil => exact later
  | cons b front ih =>
    obtain ⟨own, others⟩ := List.forall_mem_cons.mp plain
    refine .copy ?_ (ih others)
    intro x y z byte after _ same
    exact own (List.cons.inj same).1

end

/-! ### Characters and their bytes -/

/-- An ASCII byte in front of an encoded text is a character of it. -/
theorem exists_char_of_encode {cs : List Char} (small : b.toNat < 0x80)
    (h : Utf8.encode cs = b :: rest) :
    ∃ c later, cs = c :: later ∧ c.toNat = b.toNat ∧ rest = Utf8.encode later := by
  cases cs with
  | nil => cases h
  | cons c later =>
    refine ⟨c, later, rfl, ?_⟩
    rw [Utf8.encode_cons] at h
    by_cases ascii : c.toNat < 0x80
    · rw [Utf8.utf8EncodeChar_of_lt ascii] at h
      obtain ⟨rfl, rfl⟩ := List.cons.inj h
      exact ⟨(Utf8.toNat_ofNat (by omega)).symm, rfl⟩
    · -- all bytes of a longer character are beyond ASCII
      obtain ⟨lead, tail, own, -⟩ := Utf8.front_utf8EncodeChar c []
      have first : lead ∈ String.utf8EncodeChar c := by simp [own]
      have beyond := Utf8.le_of_mem_utf8EncodeChar (by omega) first
      rw [own] at h
      obtain ⟨rfl, -⟩ := List.cons.inj h
      omega

theorem digit?_eq_some_iff {c : Char} : digit? c = some n ↔ n < 8 ∧ c.toNat = 48 + n := by
  have range : '0' ≤ c ∧ c ≤ '7' ↔ 48 ≤ c.toNat ∧ c.toNat ≤ 55 := Iff.rfl
  rw [digit?]
  split
  case isTrue h =>
    rw [range] at h
    rw [Option.some.injEq]
    omega
  case isFalse h =>
    rw [range] at h
    simp only [reduceCtorEq, false_iff]
    omega

theorem digit_iff {c : Char} (same : c.toNat = b.toNat) : Digit b n ↔ digit? c = some n := by
  rw [digit?_eq_some_iff, same]
  constructor
  · intro h
    exact ⟨h.1, h.toNat⟩
  · rintro ⟨small, code⟩
    exact ⟨small, by rw [← code, UInt8.ofNat_toNat]⟩

theorem signedDigit_iff {c : Char} (same : c.toNat = b.toNat) :
    SignedDigit b n ↔ (if c = '+' then some 0 else digit? c) = some n := by
  have plus : c = '+' ↔ b = 0x2B := by
    rw [← Char.toNat_inj, same, ← UInt8.toNat_inj]
    rfl
  rw [SignedDigit]
  split
  case isTrue h =>
    have noDigit : ¬Digit b n := fun digit => digit.ne_plus (plus.mp h)
    rw [or_iff_right noDigit, and_iff_right (plus.mp h), Option.some.injEq, eq_comm]
  case isFalse h =>
    have unsigned : ¬(b = 0x2B ∧ n = 0) := fun signed => h (plus.mpr signed.1)
    rw [or_iff_left unsigned, digit_iff same]

/-- The digits that the reader takes are those of the rule, character by character. -/
theorem value?_eq_some_iff {a c d : Char} (hx : a.toNat = x.toNat) (hy : c.toNat = y.toNat)
    (hz : d.toNat = z.toNat) : value? a c d = some byte ↔ IsEscape SignedDigit x y z byte := by
  rw [value?, IsEscape]
  simp only [signedDigit_iff hx, digit_iff hy, digit_iff hz]
  split
  case h_1 i j k hi hj hk =>
    simp only [hi, hj, hk, Option.some.injEq, exists_and_left, exists_eq_left']
    split <;> simp [*, eq_comm]
  case h_2 missing =>
    simp only [reduceCtorEq, false_iff]
    rintro ⟨i, j, k, hi, hj, hk, -⟩
    exact missing i j k hi hj hk

/-- Signs and digits are ASCII. -/
theorem ascii_of_value? {a c d : Char} (h : value? a c d = some byte) :
    a.toNat < 0x80 ∧ c.toNat < 0x80 ∧ d.toNat < 0x80 := by
  rw [value?] at h
  split at h
  case h_2 => cases h
  case h_1 hx hy hz =>
    rw [digit?_eq_some_iff] at hy hz
    split at hx
    case isTrue plus =>
      subst plus
      exact ⟨by decide, by omega, by omega⟩
    case isFalse =>
      rw [digit?_eq_some_iff] at hx
      omega

/-! ### The reader -/

/-- An escape in an encoded text is made of characters that the reader takes for one. -/
theorem exists_value_of_encode {cs : List Char} (escape : IsEscape SignedDigit x y z byte)
    (h : Utf8.encode cs = x :: y :: z :: rest) :
    ∃ a c d later, cs = a :: c :: d :: later ∧ value? a c d = some byte := by
  obtain ⟨i, j, k, hi, hj, hk, -⟩ := id escape
  have small : x.toNat < 0x80 := by
    rcases hi with digit | ⟨rfl, -⟩
    · have code := digit.toNat
      have bound := digit.1
      omega
    · decide
  have codeY := hj.toNat
  have codeZ := hk.toNat
  have boundY := hj.1
  have boundZ := hk.1
  obtain ⟨a, cs, rfl, hx, h⟩ := exists_char_of_encode small h
  obtain ⟨c, cs, rfl, hy, h⟩ := exists_char_of_encode (by omega) h.symm
  obtain ⟨d, cs, rfl, hz, -⟩ := exists_char_of_encode (by omega) h.symm
  exact ⟨a, c, d, cs, rfl, (value?_eq_some_iff hx hy hz).mpr escape⟩

theorem utf8EncodeChar_backslash : String.utf8EncodeChar '\\' = [0x5C] := rfl

/-- Only the backslash has the byte of the backslash. -/
theorem ne_backslash_of_mem {c : Char} (h : c ≠ '\\') (hb : b ∈ String.utf8EncodeChar c) :
    b ≠ 0x5C := by
  rintro rfl
  by_cases ascii : c.toNat < 0x80
  · rw [Utf8.utf8EncodeChar_of_lt ascii, List.mem_singleton] at hb
    refine h (Char.toNat_inj.mp ?_)
    rw [← Utf8.toNat_ofNat (n := c.toNat) (by omega), ← hb]
    rfl
  · have beyond := Utf8.le_of_mem_utf8EncodeChar (by omega) hb
    simp at beyond

/-- The bytes of a text are read as the reader reads its characters. -/
theorem unescaped_decodeBytes (cs : List Char) :
    Unescaped SignedDigit (Utf8.encode cs) (decodeBytes cs) := by
  fun_induction decodeBytes cs with
  | case1 a c d rest byte value ih =>
    obtain ⟨ha, hc, hd⟩ := ascii_of_value? value
    have code {e : Char} (h : e.toNat < 0x80) : e.toNat = (UInt8.ofNat e.toNat).toNat :=
      (Utf8.toNat_ofNat (by omega)).symm
    simp only [Utf8.encode_cons, utf8EncodeChar_backslash, Utf8.utf8EncodeChar_of_lt, ha, hc, hd,
      List.cons_append, List.nil_append]
    exact .escape ((value?_eq_some_iff (code ha) (code hc) (code hd)).mp value) ih
  | case2 a c d rest value ih =>
    rw [Utf8.encode_cons, utf8EncodeChar_backslash]
    refine .copy ?_ ih
    intro x y z byte after escape same
    obtain ⟨a', c', d', later, heq, value'⟩ := exists_value_of_encode escape (List.cons.inj same).2
    simp only [List.cons.injEq] at heq
    obtain ⟨rfl, rfl, rfl, rfl⟩ := heq
    rw [value] at value'
    cases value'
  | case3 c rest short ih =>
    rw [Utf8.encode_cons]
    by_cases backslash : c = '\\'
    · subst backslash
      rw [utf8EncodeChar_backslash]
      refine .copy ?_ ih
      intro x y z byte after escape same
      obtain ⟨a, c, d, later, heq, -⟩ := exists_value_of_encode escape (List.cons.inj same).2
      exact short a c d later rfl heq
    · exact .append (fun b hb => ne_backslash_of_mem backslash hb) ih
  | case4 => exact .nil

end Octal

/-! ### Backslashes in lossy text -/

namespace Utf8

/-- A broken piece holds no ASCII byte. -/
theorem le_of_front_broken {more : Nat} (h : front b rest = .broken more) :
    ∀ c ∈ b :: rest.take more, 0x80 ≤ c.toNat := by
  have tail {c : UInt8} (hc : isTail c = true) : 0x80 ≤ c.toNat := (of_isTail hc).1
  have second {c : UInt8} (hc : allowsSecond b c = true) : 0x80 ≤ c.toNat :=
    (of_allowsSecond hc).1.1
  unfold front at h
  split at h
  case isTrue => cases h
  case isFalse beyond =>
    simp only [UInt8.lt_iff_toNat_lt, UInt8.reduceToNat, Nat.not_lt] at beyond
    rw [List.forall_mem_cons]
    refine ⟨beyond, ?_⟩
    -- each byte that was taken has been looked at, in its place
    repeat' split at h
    all_goals cases h
    all_goals simp_all

theorem count_utf8EncodeChar (c : Char) :
    (String.utf8EncodeChar c).count 0x5C = if c = '\\' then 1 else 0 := by
  split
  case isTrue h =>
    subst h
    rfl
  case isFalse h =>
    rw [List.count_eq_zero]
    intro hb
    exact Octal.ne_backslash_of_mem h hb rfl

/-- Lossy decoding neither makes backslashes nor drops any. -/
theorem count_decodeLossy (bytes : Bytes) :
    (decodeLossy bytes).count '\\' = bytes.count 0x5C := by
  fun_induction decodeLossy bytes with
  | case1 => rfl
  | case2 b rest c more read ih =>
    rw [← utf8EncodeChar_of_front read, List.count_append, count_utf8EncodeChar, ← ih,
      List.count_cons, Nat.add_comm]
    simp
  | case3 b rest more read ih =>
    have none : (b :: rest.take more).count 0x5C = 0 := by
      rw [List.count_eq_zero]
      intro hb
      have beyond := le_of_front_broken read _ hb
      simp at beyond
    have whole : b :: rest = (b :: rest.take more) ++ rest.drop more := by simp
    rw [whole, List.count_append, none, ← ih, List.count_cons_of_ne (by decide), Nat.zero_add]

end Utf8

namespace Octal

/-! ### Signs -/

theorem IsEscape.signed (h : IsEscape Digit x y z byte) : IsEscape SignedDigit x y z byte := by
  obtain ⟨i, j, k, hi, others⟩ := h
  exact ⟨i, j, k, .inl hi, others⟩

/-- Past a byte with which no escape begins stands what stood before. -/
theorem HasSigned.tail (h : HasSigned (b :: rest))
    (plain : ∀ y z byte after, IsEscape SignedDigit 0x2B y z byte →
      b :: rest ≠ 0x5C :: 0x2B :: y :: z :: after) : HasSigned rest := by
  obtain ⟨y, z, j, k, hy, hz, stands⟩ := h
  rcases List.infix_cons_iff.mp stands with ⟨after, here⟩ | later
  · have small : 0 * 64 + j * 8 + k ≤ 255 := by
      have hj := hy.1
      have hk := hz.1
      omega
    exact absurd here.symm (plain y z _ after ⟨0, j, k, .inr ⟨rfl, rfl⟩, hy, hz, small, rfl⟩)
  · exact ⟨y, z, j, k, hy, hz, later⟩

theorem HasSigned.of_ne (h : HasSigned (b :: rest)) (ne : b ≠ 0x5C) : HasSigned rest :=
  h.tail fun _ _ _ _ _ same => ne (List.cons.inj same).1

/-- Without a sign, the reader and the rule read alike. -/
theorem Unescaped.strict (h : Unescaped SignedDigit bytes out) (unsigned : ¬HasSigned bytes) :
    Unescaped Digit bytes out := by
  induction h with
  | nil => exact .nil
  | @escape x y z byte rest out escape later ih =>
    have after : ¬HasSigned rest := by
      rintro ⟨y', z', j, k, hy, hz, stands⟩
      exact unsigned ⟨y', z', j, k, hy, hz,
        stands.trans (List.suffix_append [_, _, _, _] _).isInfix⟩
    obtain ⟨i, j, k, hi, hj, hk, small, rfl⟩ := escape
    rcases hi with hi | ⟨rfl, -⟩
    · exact .escape ⟨i, j, k, hi, hj, hk, small, rfl⟩ (ih after)
    · exact absurd ⟨y, z, j, k, hj, hk, (List.prefix_append [_, _, _, _] _).isInfix⟩ unsigned
  | @copy b rest out plain later ih =>
    have after : ¬HasSigned rest := by
      rintro ⟨y', z', j, k, hy, hz, stands⟩
      exact unsigned ⟨y', z', j, k, hy, hz, stands.trans (List.suffix_cons b rest).isInfix⟩
    exact .copy (fun x y z byte after escape => plain x y z byte after escape.signed) (ih after)

/-- A sign takes a backslash away. -/
theorem Unescaped.count_lt (h : Unescaped SignedDigit bytes out)
    (h' : Unescaped Digit bytes other) :
    out.count 0x5C ≤ other.count 0x5C ∧
      (HasSigned bytes → out.count 0x5C < other.count 0x5C) := by
  induction h generalizing other with
  | nil =>
    cases h'
    refine ⟨Nat.le_refl _, ?_⟩
    rintro ⟨y, z, j, k, -, -, stands⟩
    simp at stands
  | @escape x y z byte rest out escape later ih =>
    obtain ⟨i, j, k, hi, hj, hk, small, rfl⟩ := escape
    rcases hi with hi | ⟨rfl, rfl⟩
    case inl =>
      -- both read the digits as a byte
      have strict : IsEscape Digit x y z _ := ⟨i, j, k, hi, hj, hk, small, rfl⟩
      cases h' with
      | copy plain => exact absurd rfl (plain _ _ _ _ _ strict)
      | escape strict' later' =>
        obtain ⟨le, lt⟩ := ih later'
        rw [strict'.unique digit_unique strict, List.count_cons, List.count_cons]
        refine ⟨by omega, fun signed => ?_⟩
        have unsigned : HasSigned (x :: y :: z :: rest) :=
          signed.tail fun _ _ _ _ _ same => hi.ne_plus (List.cons.inj (List.cons.inj same).2).1
        have later := lt (((unsigned.of_ne hi.ne_backslash).of_ne hj.ne_backslash).of_ne
          hk.ne_backslash)
        omega
    case inr =>
      -- the rule copies the backslash and, after it, the sign and the digits
      cases h' with
      | escape strict' =>
        obtain ⟨i, _, _, hi, -⟩ := strict'
        exact absurd rfl hi.ne_plus
      | copy plain copied =>
        obtain ⟨_, rfl, afterSign⟩ := copied.of_ne (by decide)
        obtain ⟨_, rfl, afterDigit⟩ := afterSign.of_ne hj.ne_backslash
        obtain ⟨copies, rfl, afterDigits⟩ := afterDigit.of_ne hk.ne_backslash
        obtain ⟨le, -⟩ := ih afterDigits
        have value : UInt8.ofNat (0 * 64 + j * 8 + k) ≠ 0x5C := by
          have hj := hj.1
          have hk := hk.1
          rw [Ne, ← UInt8.toNat_inj, Utf8.toNat_ofNat (by omega)]
          simp only [UInt8.reduceToNat]
          omega
        have fewer : (UInt8.ofNat (0 * 64 + j * 8 + k) :: out).count 0x5C <
            (0x5C :: 0x2B :: y :: z :: copies).count 0x5C := by
          rw [List.count_cons_of_ne value, List.count_cons_self]
          simp only [List.count_cons]
          omega
        exact ⟨Nat.le_of_lt fewer, fun _ => fewer⟩
  | @copy b rest out plain later ih =>
    cases h' with
    | escape strict' => exact absurd rfl (plain _ _ _ _ _ strict'.signed)
    | copy plain' later' =>
      obtain ⟨le, lt⟩ := ih later'
      simp only [List.count_cons]
      refine ⟨by omega, fun signed => ?_⟩
      have later := lt (signed.tail fun y z byte after => plain _ y z byte after)
      omega

/-- A text is read, lossily, as its bytes are where a plus sign may stand for a first digit. So it
is read as the rule reads these bytes, in just one way, exactly if no plus sign stands among them
between a backslash and two octal digits. -/
theorem decode_by_rule_iff (cs : List Char) :
    (∃ bytes, (∀ other, Unescaped SignedDigit (Utf8.encode cs) other ↔ other = bytes) ∧
      decode cs = Utf8.decodeLossy bytes) ∧
    ∃ bytes, (∀ other, Unescaped Digit (Utf8.encode cs) other ↔ other = bytes) ∧
      (decode cs = Utf8.decodeLossy bytes ↔ ¬HasSigned (Utf8.encode cs)) := by
  have reader := unescaped_decodeBytes cs
  obtain ⟨bytes, read⟩ := exists_unescaped Digit (Utf8.encode cs)
  constructor
  · exact ⟨decodeBytes cs, fun other => reader.iff_eq signedDigit_unique, rfl⟩
  · refine ⟨bytes, fun other => read.iff_eq digit_unique, ?_, ?_⟩
    · intro same signed
      have fewer := (reader.count_lt read).2 signed
      rw [← Utf8.count_decodeLossy, ← Utf8.count_decodeLossy, ← decode, same] at fewer
      exact Nat.lt_irrefl _ fewer
    · intro unsigned
      rw [decode, (reader.strict unsigned).unique digit_unique read]

/-- Four characters that are no escape, read as a line feed. -/
theorem signedEscape_read :
    let cs := ['\\', '+', '1', '2']
    Unescaped Digit (Utf8.encode cs) (Utf8.encode cs) ∧
      Utf8.decodeLossy (Utf8.encode cs) = cs ∧ decode cs = ['\n'] := by
  intro cs
  have plain : ∀ x y z byte after, IsEscape Digit x y z byte →
      Utf8.encode cs ≠ 0x5C :: x :: y :: z :: after := by
    rintro x y z byte after ⟨i, j, k, hi, -⟩ same
    exact hi.ne_plus (List.cons.inj (List.cons.inj same).2).1.symm
  have rest : Unescaped Digit ([0x2B, 0x31, 0x32] ++ []) ([0x2B, 0x31, 0x32] ++ []) :=
    .append (by simp) .nil
  exact ⟨.copy plain rest, Utf8.decodeLossy_encode cs, Utf8.decodeLossy_encode ['\n']⟩

end Octal
end BlockVolume.Text
