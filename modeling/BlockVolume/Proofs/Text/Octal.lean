import BlockVolume.Proofs.Text.Cutting
import BlockVolume.Proofs.Text.Utf8
import BlockVolume.Text.Octal
/-!
Paths read back from their octal escapes.

The escape of a byte is read as that byte, and what is not escaped stands for itself, so a path that
was written with escapes is read as it was. Escapes hold no blanks: of the blanks in a path, just
those that are not escaped stand in its written form.
-/

namespace BlockVolume.Text.Octal

variable {c : Char} {cs : List Char} {n : Nat}

/-! ### One escape -/

theorem digit?_ofNat (h : n < 8) : digit? (Char.ofNat (48 + n)) = some n := by
  revert n
  decide

theorem ofNat_ne_plus (h : n < 8) : Char.ofNat (48 + n) ≠ '+' := by
  revert n
  decide

theorem isBlank_ofNat (h : n < 8) : isBlank (Char.ofNat (48 + n)) = false := by
  revert n
  decide

/-- The digits of a byte have its value. -/
theorem value?_escape (h : n < 256) :
    value? (Char.ofNat (48 + n / 64)) (Char.ofNat (48 + n / 8 % 8)) (Char.ofNat (48 + n % 8)) =
      some (UInt8.ofNat n) := by
  have whole : n / 64 * 64 + n / 8 % 8 * 8 + n % 8 = n := by omega
  rw [value?, if_neg (ofNat_ne_plus (by omega)), digit?_ofNat (by omega), digit?_ofNat (by omega),
    digit?_ofNat (by omega)]
  dsimp only
  rw [whole, if_pos (by omega)]

theorem decodeBytes_escape (h : n < 256) (rest : List Char) :
    decodeBytes (escape n ++ rest) = UInt8.ofNat n :: decodeBytes rest := by
  have value := value?_escape h
  simp only [escape, List.cons_append, List.nil_append, decodeBytes, value]

theorem decodeBytes_cons (h : c ≠ '\\') (rest : List Char) :
    decodeBytes (c :: rest) = String.utf8EncodeChar c ++ decodeBytes rest := by
  rw [decodeBytes]
  rintro _ _ _ _ rfl
  exact absurd rfl h

/-- An escaped character is a single byte. -/
theorem toNat_of_isEscaped (h : isEscaped c = true) : c.toNat < 128 := by
  simp only [isEscaped, Bool.or_eq_true, beq_iff_eq] at h
  rcases h with ((rfl | rfl) | rfl) | rfl <;> decide

/-! ### Paths -/

@[simp] theorem encode_nil : encode [] = [] := rfl

theorem encode_cons_of_pos (h : isEscaped c = true) (cs : List Char) :
    encode (c :: cs) = escape c.toNat ++ encode cs := by
  rw [encode, List.flatMap_cons, if_pos h]
  rfl

theorem encode_cons_of_neg (h : isEscaped c = false) (cs : List Char) :
    encode (c :: cs) = c :: encode cs := by
  rw [encode, List.flatMap_cons, if_neg (by simp [h])]
  rfl

theorem decodeBytes_encode (cs : List Char) : decodeBytes (encode cs) = Utf8.encode cs := by
  induction cs with
  | nil => rfl
  | cons c cs ih =>
    cases h : isEscaped c with
    | true =>
      have single := toNat_of_isEscaped h
      rw [encode_cons_of_pos h, decodeBytes_escape (by omega), ih, Utf8.encode_cons,
        Utf8.utf8EncodeChar_of_lt single]
      rfl
    | false =>
      have plain : c ≠ '\\' := by
        rintro rfl
        exact absurd h (by decide)
      rw [encode_cons_of_neg h, decodeBytes_cons plain, ih, Utf8.encode_cons]

/-- A path is read back. -/
@[simp] theorem decode_encode (cs : List Char) : decode (encode cs) = cs := by
  rw [decode, decodeBytes_encode, Utf8.decodeLossy_encode]

/-! ### Blanks -/

/-- A blank that is written as it is. -/
def isOpenBlank (c : Char) : Bool := isBlank c && !isEscaped c

theorem isBlank_of_mem_escape (h : n < 256) (hc : c ∈ escape n) : isBlank c = false := by
  simp only [escape, List.mem_cons, List.not_mem_nil, or_false] at hc
  rcases hc with rfl | rfl | rfl | rfl
  · decide
  all_goals exact isBlank_ofNat (by omega)

/-- The blanks of a written path are open. -/
theorem isEscaped_of_mem_encode (hc : c ∈ encode cs) (blank : isBlank c = true) :
    isEscaped c = false := by
  obtain ⟨d, -, hd⟩ := List.mem_flatMap.mp hc
  split at hd
  case isTrue escaped =>
    have single := toNat_of_isEscaped escaped
    rw [isBlank_of_mem_escape (by omega) hd] at blank
    cases blank
  case isFalse plain =>
    obtain rfl := List.mem_singleton.mp hd
    simpa using plain

/-- Dropping the blanks of a written path drops the open ones of the path. -/
theorem filter_isBlank_encode (cs : List Char) :
    (encode cs).filter (fun c => !isBlank c) = encode (cs.filter fun c => !isOpenBlank c) := by
  induction cs with
  | nil => rfl
  | cons c cs ih =>
    cases h : isEscaped c with
    | true =>
      have single := toNat_of_isEscaped h
      have kept : (escape c.toNat).filter (fun c => !isBlank c) = escape c.toNat :=
        List.filter_eq_self.mpr fun d hd => by
          rw [isBlank_of_mem_escape (by omega) hd]
          rfl
      rw [encode_cons_of_pos h, List.filter_append, kept, ih,
        List.filter_cons_of_pos (by simp [isOpenBlank, h]), encode_cons_of_pos h]
    | false =>
      cases hb : isBlank c with
      | true =>
        rw [encode_cons_of_neg h, List.filter_cons_of_neg (by simp [hb]), ih,
          List.filter_cons_of_neg (by simp [isOpenBlank, h, hb])]
      | false =>
        rw [encode_cons_of_neg h, List.filter_cons_of_pos (by simp [hb]), ih,
          List.filter_cons_of_pos (by simp [isOpenBlank, hb]), encode_cons_of_neg h]

example : encode [' ', '\t', '\n', '\\', '\r'] = "\\040\\011\\012\\134\r".toList := by decide

end BlockVolume.Text.Octal
