import BlockVolume.Text.Decimal
/-!
Integers read back from their decimal digits.

Reading digits from the left never goes past the value of all of them, so a value in range is read
without a break. What is read at all is a numeral: a sign or none, and digits.
-/

namespace BlockVolume.Text.Decimal

variable {cs : List Char} {value : Int}

/-- More digits make a value no smaller. -/
theorem le_ofDigitChars (cs : List Char) (start : Nat) : start ≤ Nat.ofDigitChars 10 cs start := by
  induction cs generalizing start with
  | nil => exact Nat.le_refl start
  | cons c cs ih =>
    rw [Nat.ofDigitChars_cons]
    have later := ih (10 * start + (c.toNat - '0'.toNat))
    omega

/-- One more digit, upwards and downwards. -/
theorem append_digit (start : Nat) (c : Char) :
    (start : Int) * 10 + (c.toNat - 48 : Nat) = (10 * start + (c.toNat - '0'.toNat) : Nat) ∧
      -(start : Int) * 10 - (c.toNat - 48 : Nat) =
        -((10 * start + (c.toNat - '0'.toNat) : Nat) : Int) := by
  have zero : '0'.toNat = 48 := rfl
  rw [zero]
  omega

theorem readUp_digits (digits : ∀ c ∈ cs, c.isDigit = true) (start : Nat)
    (h : (Nat.ofDigitChars 10 cs start : Int) ≤ maxValue) :
    readUp cs start = .ok (Nat.ofDigitChars 10 cs start : Int) := by
  induction cs generalizing start with
  | nil => rfl
  | cons c cs ih =>
    rw [Nat.ofDigitChars_cons] at h ⊢
    have grows := le_ofDigitChars cs (10 * start + (c.toNat - '0'.toNat))
    rw [readUp, digits c List.mem_cons_self, if_neg (by simp)]
    dsimp only
    rw [(append_digit start c).1, if_neg (by omega)]
    exact ih (fun d hd => digits d (List.mem_cons_of_mem c hd)) _ h

theorem readDown_digits (digits : ∀ c ∈ cs, c.isDigit = true) (start : Nat)
    (h : minValue ≤ -(Nat.ofDigitChars 10 cs start : Int)) :
    readDown cs (-start) = .ok (-(Nat.ofDigitChars 10 cs start : Int)) := by
  induction cs generalizing start with
  | nil => rfl
  | cons c cs ih =>
    rw [Nat.ofDigitChars_cons] at h ⊢
    have grows := le_ofDigitChars cs (10 * start + (c.toNat - '0'.toNat))
    rw [readDown, digits c List.mem_cons_self, if_neg (by simp)]
    dsimp only
    rw [(append_digit start c).2, if_neg (by omega)]
    exact ih (fun d hd => digits d (List.mem_cons_of_mem c hd)) _ h

/-- Only digits are appended, and none that takes the value out of range. -/
theorem of_readUp (start : Nat) (fits : (start : Int) ≤ maxValue)
    (h : readUp cs start = .ok value) :
    (∀ c ∈ cs, c.isDigit = true) ∧ value = Nat.ofDigitChars 10 cs start ∧ value ≤ maxValue := by
  induction cs generalizing start with
  | nil =>
    obtain rfl := Except.ok.inj h
    exact ⟨by simp, rfl, fits⟩
  | cons c cs ih =>
    rw [readUp] at h
    dsimp only at h
    rw [(append_digit start c).1] at h
    split at h
    case isTrue => cases h
    case isFalse digit =>
      split at h
      case isTrue => cases h
      case isFalse next =>
        obtain ⟨digits, whole, least⟩ := ih _ (by omega) h
        refine ⟨List.forall_mem_cons.mpr ⟨by simpa using digit, digits⟩, ?_, least⟩
        rw [Nat.ofDigitChars_cons, whole]

theorem of_readDown (start : Nat) (fits : minValue ≤ -(start : Int))
    (h : readDown cs (-start) = .ok value) :
    (∀ c ∈ cs, c.isDigit = true) ∧ value = -(Nat.ofDigitChars 10 cs start : Int) ∧
      minValue ≤ value := by
  induction cs generalizing start with
  | nil =>
    obtain rfl := Except.ok.inj h
    exact ⟨by simp, rfl, fits⟩
  | cons c cs ih =>
    rw [readDown] at h
    dsimp only at h
    rw [(append_digit start c).2] at h
    split at h
    case isTrue => cases h
    case isFalse digit =>
      split at h
      case isTrue => cases h
      case isFalse next =>
        obtain ⟨digits, whole, least⟩ := ih _ (by omega) h
        refine ⟨List.forall_mem_cons.mpr ⟨by simpa using digit, digits⟩, ?_, least⟩
        rw [Nat.ofDigitChars_cons, whole]

/-! ### Written values -/

theorem isDigit_of_mem_toDigits {n : Nat} {c : Char} (hc : c ∈ Nat.toDigits 10 n) :
    c.isDigit = true :=
  Nat.isDigit_of_mem_toDigits (by decide) (by decide) hc

theorem toList_toString_ofNat (n : Nat) : (toString (Int.ofNat n)).toList = Nat.toDigits 10 n := by
  simp [Int.toString_eq_repr, Int.repr]

theorem toList_toString_negSucc (n : Nat) :
    (toString (Int.negSucc n)).toList = '-' :: Nat.toDigits 10 (n + 1) := by
  simp [Int.toString_eq_repr, Int.repr]

/-- A written value is a sign or a digit, and digits. -/
theorem mem_toString {c : Char} (hc : c ∈ (toString value).toList) :
    c = '-' ∨ c.isDigit = true := by
  cases value with
  | ofNat n =>
    rw [toList_toString_ofNat] at hc
    exact Or.inr (isDigit_of_mem_toDigits hc)
  | negSucc n =>
    rw [toList_toString_negSucc] at hc
    exact (List.mem_cons.mp hc).imp_right isDigit_of_mem_toDigits

theorem toString_ne_nil (value : Int) : (toString value).toList ≠ [] := by
  cases value with
  | ofNat n =>
    rw [toList_toString_ofNat]
    exact Nat.toDigits_ne_nil
  | negSucc n =>
    rw [toList_toString_negSucc]
    exact List.cons_ne_nil _ _

/-! ### Numerals -/

/-- An optional sign and decimal digits, at least one, with the value that they have. -/
inductive IsNumeral : List Char → Int → Prop
  | plain {digits : List Char} (nonempty : digits ≠ [])
      (decimal : ∀ c ∈ digits, c.isDigit = true) :
      IsNumeral digits (Nat.ofDigitChars 10 digits 0)
  | plus {digits : List Char} (nonempty : digits ≠ [])
      (decimal : ∀ c ∈ digits, c.isDigit = true) :
      IsNumeral ('+' :: digits) (Nat.ofDigitChars 10 digits 0)
  | minus {digits : List Char} (nonempty : digits ≠ [])
      (decimal : ∀ c ∈ digits, c.isDigit = true) :
      IsNumeral ('-' :: digits) (-(Nat.ofDigitChars 10 digits 0 : Int))

theorem read_of_isDigit {c : Char} (digit : c.isDigit = true) :
    read (c :: cs) = readUp (c :: cs) 0 := by
  have plus : c ≠ '+' := by
    rintro rfl
    exact absurd digit (by decide)
  have minus : c ≠ '-' := by
    rintro rfl
    exact absurd digit (by decide)
  simp [read, plus, minus]

theorem read_plus (some : cs ≠ []) : read ('+' :: cs) = readUp cs 0 := by
  cases cs with
  | nil => exact absurd rfl some
  | cons c cs => rfl

theorem read_minus (some : cs ≠ []) : read ('-' :: cs) = readDown cs 0 := by
  cases cs with
  | nil => exact absurd rfl some
  | cons c cs => rfl

/-- A numeral in range is read. -/
theorem IsNumeral.read (numeral : IsNumeral cs value) (least : minValue ≤ value)
    (greatest : value ≤ maxValue) : Decimal.read cs = .ok value := by
  cases numeral with
  | plain nonempty decimal =>
    obtain ⟨c, digits, rfl⟩ := List.exists_cons_of_ne_nil nonempty
    rw [read_of_isDigit (decimal c List.mem_cons_self)]
    exact readUp_digits decimal 0 greatest
  | plus nonempty decimal =>
    rw [read_plus nonempty]
    exact readUp_digits decimal 0 greatest
  | minus nonempty decimal =>
    rw [read_minus nonempty]
    exact readDown_digits decimal 0 least

/-- What is read is a numeral in range. -/
theorem isNumeral_of_read (h : Decimal.read cs = .ok value) :
    IsNumeral cs value ∧ minValue ≤ value ∧ value ≤ maxValue := by
  have least : minValue ≤ 0 := by decide
  have greatest : 0 ≤ maxValue := by decide
  unfold read at h
  split at h
  case h_1 => cases h
  case h_2 => cases h
  case h_3 => cases h
  case h_4 digits alone =>
    obtain ⟨decimal, rfl, fits⟩ := of_readUp 0 greatest h
    have nonempty : digits ≠ [] := by
      rintro rfl
      exact alone rfl
    exact ⟨.plus nonempty decimal, by omega, fits⟩
  case h_5 digits alone =>
    obtain ⟨decimal, rfl, fits⟩ := of_readDown 0 least h
    have nonempty : digits ≠ [] := by
      rintro rfl
      exact alone rfl
    exact ⟨.minus nonempty decimal, fits, by omega⟩
  case h_6 nonempty _ _ _ _ =>
    obtain ⟨decimal, rfl, fits⟩ := of_readUp 0 greatest h
    exact ⟨.plain nonempty decimal, by omega, fits⟩

theorem read_eq_ok_iff :
    read cs = .ok value ↔ IsNumeral cs value ∧ minValue ≤ value ∧ value ≤ maxValue :=
  ⟨isNumeral_of_read, fun ⟨numeral, least, greatest⟩ => numeral.read least greatest⟩

/-- A written value is a numeral. -/
theorem isNumeral_toString (value : Int) : IsNumeral (toString value).toList value := by
  cases value with
  | ofNat n =>
    rw [toList_toString_ofNat]
    have numeral : IsNumeral (Nat.toDigits 10 n) _ :=
      .plain Nat.toDigits_ne_nil fun c hc => isDigit_of_mem_toDigits hc
    rwa [Nat.ofDigitChars_ten_toDigits] at numeral
  | negSucc n =>
    rw [toList_toString_negSucc]
    have numeral : IsNumeral ('-' :: Nat.toDigits 10 (n + 1)) _ :=
      .minus Nat.toDigits_ne_nil fun c hc => isDigit_of_mem_toDigits hc
    rwa [Nat.ofDigitChars_ten_toDigits] at numeral

/-- A value in range is read back. -/
theorem read_toString (least : minValue ≤ value) (greatest : value ≤ maxValue) :
    read (toString value).toList = .ok value :=
  (isNumeral_toString value).read least greatest

end BlockVolume.Text.Decimal
