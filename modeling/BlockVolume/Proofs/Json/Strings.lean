import BlockVolume.Proofs.Json.Grammar
import BlockVolume.Proofs.Text.Utf8
/-!
Texts that are strings as they are.

An escape is longer than what it stands for, so a string with one in it is longer than its text. A
text can stand between quotes for itself exactly if it needs no escape.
-/

namespace BlockVolume.Json

open BlockVolume.Text (Bytes)

variable {raw out : Bytes} {text : String}

/-- A text without quotes, backslashes and control characters. -/
def IsBare (text : String) : Prop := ∀ c ∈ text.toList, c ≠ '"' ∧ c ≠ '\\' ∧ 0x20 ≤ c.toNat

/-- Bytes that are none of those that need an escape. -/
def BareBytes (bytes : Bytes) : Prop := ∀ b ∈ bytes, b ≠ 0x22 ∧ b ≠ 0x5C ∧ ¬b < 0x20

/-! ### Escapes -/

theorem length_utf8EncodeChar_le (c : Char) : (String.utf8EncodeChar c).length ≤ 4 := by
  rw [String.length_utf8EncodeChar]
  exact c.utf8Size_le_four

/-- No text is longer than its string, and where there is an escape it is shorter. -/
theorem length_unescapeBytes (h : unescapeBytes? raw = some out) :
    out.length ≤ raw.length ∧ (0x5C ∈ raw → out.length < raw.length) := by
  have char := length_utf8EncodeChar_le
  fun_induction unescapeBytes? raw generalizing out with
  | case1 | case2 | case4 | case5 | case6 | case8 | case10 => cases h
  | case12 =>
    obtain rfl := Option.some.inj h
    simp
  | case3 a b c d high _ _ e f g h rest low _ _ ih =>
    obtain ⟨later, read, rfl⟩ := Option.map_eq_some_iff.mp h
    have short := (ih read).1
    have first := char (Char.ofNat (0x10000 + (high - 0xD800) * 1024 + (low - 0xDC00)))
    simp only [List.length_append, List.length_cons]
    omega
  | case7 a b c d rest code _ _ _ ih =>
    obtain ⟨later, read, rfl⟩ := Option.map_eq_some_iff.mp h
    have short := (ih read).1
    have first := char (Char.ofNat code)
    simp only [List.length_append, List.length_cons]
    omega
  | case9 b rest _ byte _ ih =>
    obtain ⟨later, read, rfl⟩ := Option.map_eq_some_iff.mp h
    have short := (ih read).1
    simp only [List.length_cons]
    omega
  | case11 b rest _ _ plain ih =>
    obtain ⟨later, read, rfl⟩ := Option.map_eq_some_iff.mp h
    obtain ⟨short, less⟩ := ih read
    refine ⟨Nat.succ_le_succ short, fun escape => Nat.succ_lt_succ (less ?_)⟩
    rcases List.mem_cons.mp escape with rfl | escape
    · exact absurd (beq_self_eq_true _) plain
    · exact escape

theorem unescapeBytes_of_bare (bare : BareBytes raw) : unescapeBytes? raw = some raw := by
  induction raw with
  | nil => rfl
  | cons b raw ih =>
    obtain ⟨⟨-, solid, -⟩, later⟩ := List.forall_mem_cons.mp bare
    rw [unescapeBytes?, ih later, if_neg (by simpa using solid)]
    · rfl
    · exact fun _ _ _ _ _ escape => absurd escape solid
    · exact fun _ _ escape => absurd escape solid

/-! ### Texts between quotes -/

theorem body_of_bare (bare : BareBytes raw) : Body raw := by
  induction raw with
  | nil => exact .nil
  | cons b raw ih =>
    obtain ⟨⟨quote, solid, printed⟩, later⟩ := List.forall_mem_cons.mp bare
    exact .plain printed quote solid (ih later)

theorem Body.bare (h : Body raw) (solid : 0x5C ∉ raw) : BareBytes raw := by
  induction h with
  | nil => simp [BareBytes]
  | plain printed quote bare later ih =>
    exact List.forall_mem_cons.mpr ⟨⟨quote, bare, printed⟩,
      ih fun escape => solid (List.mem_cons_of_mem _ escape)⟩
  | short | unit => exact absurd List.mem_cons_self solid

/-- A character is bare where its bytes are. -/
theorem bareBytes_utf8EncodeChar (c : Char) : BareBytes (String.utf8EncodeChar c) ↔
    c ≠ '"' ∧ c ≠ '\\' ∧ 0x20 ≤ c.toNat := by
  have code (d : Char) : c = d ↔ c.toNat = d.toNat := Char.toNat_inj.symm
  have quote : '"'.toNat = 0x22 := rfl
  have backslash : '\\'.toNat = 0x5C := rfl
  simp only [BareBytes, ne_eq, code, quote, backslash, ← UInt8.toNat_inj, UInt8.lt_iff_toNat_lt,
    UInt8.reduceToNat]
  by_cases h : c.toNat < 0x80
  · have one := Text.Utf8.toNat_ofNat (show c.toNat < 256 by omega)
    rw [Text.Utf8.utf8EncodeChar_of_lt h, List.forall_mem_singleton, one, Nat.not_lt]
  · refine ⟨fun _ => by omega, fun _ b hb => ?_⟩
    have high := Text.Utf8.le_of_mem_utf8EncodeChar (Nat.le_of_not_lt h) hb
    omega

theorem bareBytes_encode (cs : List Char) : BareBytes (Text.Utf8.encode cs) ↔
    ∀ c ∈ cs, c ≠ '"' ∧ c ≠ '\\' ∧ 0x20 ≤ c.toNat := by
  induction cs with
  | nil => simp [BareBytes]
  | cons c cs ih =>
    rw [List.forall_mem_cons, ← ih, ← bareBytes_utf8EncodeChar, Text.Utf8.encode_cons]
    simp only [BareBytes, List.forall_mem_append]

/-- A text stands between quotes for itself exactly if it is bare. -/
theorem stands_iff : Body (Text.Utf8.ofString text) ∧
    unescape? (Text.Utf8.ofString text) = some text ↔ IsBare text := by
  rw [IsBare, ← bareBytes_encode]
  constructor
  · rintro ⟨body, spelled⟩
    obtain ⟨out, read, found⟩ := Option.bind_eq_some_iff.mp spelled
    obtain ⟨cs, decoded, rfl⟩ := Option.map_eq_some_iff.mp found
    have same : Text.Utf8.ofString (String.ofList cs) = out := by
      rw [Text.Utf8.ofString, String.toList_ofList, Text.Utf8.encode_of_decode? decoded]
    -- a text that is its own string has no escape, as that would be longer
    have solid : 0x5C ∉ out := fun escape => by
      have shorter := (length_unescapeBytes read).2 (same ▸ escape)
      rw [same] at shorter
      exact Nat.lt_irrefl _ shorter
    exact body.bare (same ▸ solid)
  · intro bare
    have decoded := Text.Utf8.decode?_encode text.toList
    refine ⟨body_of_bare bare, ?_⟩
    rw [unescape?, Text.Utf8.ofString, unescapeBytes_of_bare bare, Option.bind_some, decoded]
    simp

end BlockVolume.Json
