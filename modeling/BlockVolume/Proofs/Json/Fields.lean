import BlockVolume.Proofs.Json.Records
import BlockVolume.Proofs.Text.Utf8
/-!
Objects as records, told by what stands in them and not by where.

`Replaced` says what a record has for a field: what the object gives, or else the default. It asks
only which fields an object holds, so neither their order nor fields of other names matter, and a
record that is read out of an object has just these values.
-/

namespace BlockVolume.Json

open BlockVolume.Text (Bytes)

variable {α : Type} {names : List String} {name : String} {members : List (Bytes × Value)}
  {fields : List (String × Value)} {value other : Value} {found : Found}
  {Tells : Value → α → Prop} {default x : α} {n : Nat}

/-! ### Fields of objects -/

/-- A member is a field: its name is a text, and its value the value of the field. -/
def IsField (member : Bytes × Value) (field : String × Value) : Prop :=
  unescape? member.1 = some field.1 ∧ member.2 = field.2

/-- The value is an object with the given fields, in order. -/
inductive Value.HasFields : Value → List (String × Value) → Prop
  | mk {members : List (Bytes × Value)} {fields : List (String × Value)}
      (h : List.Forall₂ IsField members fields) : HasFields (.object members) fields

/-- Each of the names is given at most once. -/
def GivenOnce (names : List String) (fields : List (String × Value)) : Prop :=
  fields.Pairwise fun field later => field.1 ∈ names → field.1 ≠ later.1

/-- Where the field is given it has a value of its type: one that tells something. -/
def Typed (fields : List (String × Value)) (name : String) (Tells : Value → α → Prop) : Prop :=
  ∀ value, (name, value) ∈ fields → ∃ x, Tells value x

/-- `x` is what the field tells where it is given, and the default where it is not. -/
structure Replaced (fields : List (String × Value)) (name : String) (Tells : Value → α → Prop)
    (default x : α) : Prop where
  given : ∀ value, (name, value) ∈ fields → Tells value x
  missing : (∀ value, (name, value) ∉ fields) → x = default

theorem Replaced.of_missing (missing : ∀ value, (name, value) ∉ fields) :
    Replaced fields name Tells default default :=
  ⟨fun value given => absurd given (missing value), fun _ => rfl⟩

/-- A field that is given once has one value. -/
theorem GivenOnce.unique (once : GivenOnce names fields) (known : name ∈ names)
    (h : (name, value) ∈ fields) (h' : (name, other) ∈ fields) : value = other := by
  induction fields with
  | nil => cases h
  | cons field fields ih =>
    obtain ⟨first, later⟩ := List.pairwise_cons.mp once
    rcases List.mem_cons.mp h with here | below <;> rcases List.mem_cons.mp h' with here' | below'
    · exact (Prod.mk.inj (here.trans here'.symm)).2
    · subst here
      exact absurd rfl (first (name, other) below' known)
    · subst here'
      exact absurd rfl (first (name, value) below known)
    · exact ih later below below'

theorem exists_replaced (once : GivenOnce names fields) (known : name ∈ names)
    (typed : Typed fields name Tells) (default : α) :
    ∃ x, Replaced fields name Tells default x := by
  by_cases given : ∃ value, (name, value) ∈ fields
  · obtain ⟨value, given⟩ := given
    obtain ⟨x, told⟩ := typed value given
    refine ⟨x, ?_, fun missing => absurd given (missing value)⟩
    intro other again
    rwa [once.unique known again given]
  · exact ⟨default, fun value here => absurd ⟨value, here⟩ given, fun _ => rfl⟩

/-! ### Records read out of objects -/

theorem exists_isField (h : List.Forall₂ IsField members fields) {member : Bytes × Value}
    (hm : member ∈ members) : ∃ field ∈ fields, IsField member field := by
  induction h with
  | nil => cases hm
  | cons isField _ ih =>
    rcases List.mem_cons.mp hm with rfl | below
    · exact ⟨_, List.mem_cons_self, isField⟩
    · obtain ⟨field, hf, same⟩ := ih below
      exact ⟨field, List.mem_cons_of_mem _ hf, same⟩

/-- Where known fields are given once, members of unknown names do not keep a record from being
read. -/
theorem apart_of_fields (h : List.Forall₂ IsField members fields) (once : GivenOnce names fields) :
    Apart names [] members := by
  induction h with
  | nil => exact apart_nil
  | @cons member field members fields isField others ih =>
    obtain ⟨first, later⟩ := List.pairwise_cons.mp once
    obtain ⟨named, apart⟩ := ih later
    constructor
    · exact List.forall_mem_cons.mpr ⟨⟨field.1, isField.1, by simp⟩, named⟩
    · refine List.pairwise_cons.mpr ⟨?_, apart⟩
      intro later hm name known here again
      obtain rfl : field.1 = name := Option.some.inj (isField.1.symm.trans here)
      obtain ⟨other, hf, same⟩ := exists_isField others hm
      exact first other hf known (Option.some.inj (again.symm.trans same.1))

theorem find?_member (h : List.Forall₂ IsField members fields) :
    (members.find? fun member => unescape? member.1 == some name).map Prod.snd =
      fields.lookup name := by
  induction h with
  | nil => rfl
  | @cons member field members fields isField others ih =>
    obtain ⟨own, value⟩ := field
    obtain ⟨named, same⟩ := isField
    by_cases here : own = name
    · subst here
      rw [List.lookup_cons_self, List.find?_cons_of_pos (by simp [named])]
      exact congrArg some same
    · have different : (name == own) = false := beq_false_of_ne (Ne.symm here)
      rw [List.lookup_cons, different, List.find?_cons_of_neg (by simpa [named] using here), ih]

theorem Value.HasFields.isRecord (h : value.HasFields fields) (once : GivenOnce names fields) :
    value.IsRecord names := by
  obtain ⟨isField⟩ := h
  exact apart_of_fields isField once

theorem Value.HasFields.field?_eq (h : value.HasFields fields) :
    value.field? names name = fields.lookup name := by
  obtain ⟨isField⟩ := h
  exact find?_member isField

/-- A field of a record is read with the value that the object gives it. -/
theorem Found.optional_of_replaced {read : Value → Except Error α}
    (object : value.HasFields fields) (h : value.fields names = .ok found) (known : name ∈ names)
    (reads : ∀ value x, Tells value x → read value = .ok x)
    (replaced : Replaced fields name Tells default x) :
    found.optional name read default = .ok x := by
  rw [Found.optional_eq_ok_iff h known, object.field?_eq]
  cases standing : fields.lookup name with
  | none =>
    refine .inl ⟨rfl, replaced.missing ?_⟩
    intro value given
    simpa using List.lookup_eq_none_iff.mp standing _ given
  | some field =>
    obtain ⟨before, after, rfl, -⟩ := List.lookup_eq_some_iff.mp standing
    exact .inr ⟨field, rfl, reads field x (replaced.given field (by simp))⟩

/-! ### Natural numbers -/

/-- The value is a number written in decimal digits. -/
def Value.IsNatural (value : Value) (n : Nat) : Prop :=
  value = .number (Text.Utf8.ofString (toString n))

theorem utf8EncodeChar_of_isDigit {c : Char} (digit : c.isDigit = true) :
    ∃ b : UInt8, String.utf8EncodeChar c = [b] ∧ b.toNat = c.toNat ∧
      48 ≤ b.toNat ∧ b.toNat ≤ 57 := by
  have range : 48 ≤ c.toNat ∧ c.toNat ≤ 57 := by
    simpa [Char.isDigit, UInt32.le_iff_toNat_le] using digit
  have own := Text.Utf8.toNat_ofNat (n := c.toNat) (by omega)
  exact ⟨.ofNat c.toNat, Text.Utf8.utf8EncodeChar_of_lt (by omega), own, by omega, by omega⟩

/-- The bytes of digits are digits, and count up to the same value from any start. -/
theorem natural_encode {cs : List Char} (digits : ∀ c ∈ cs, c.isDigit = true) (start : Nat) :
    (Text.Utf8.encode cs).all (fun b => 0x30 ≤ b && b ≤ 0x39) = true ∧
      (Text.Utf8.encode cs).foldl (fun n b => n * 10 + (b.toNat - 48)) start =
        Nat.ofDigitChars 10 cs start := by
  induction cs generalizing start with
  | nil => exact ⟨rfl, rfl⟩
  | cons c cs ih =>
    obtain ⟨digit, later⟩ := List.forall_mem_cons.mp digits
    obtain ⟨b, single, own, low, high⟩ := utf8EncodeChar_of_isDigit digit
    obtain ⟨all, value⟩ := ih later (10 * start + (c.toNat - '0'.toNat))
    rw [Text.Utf8.encode_cons, single, Nat.ofDigitChars_cons, ← value, ← own]
    constructor
    · simpa [UInt8.le_iff_toNat_le, low, high] using all
    · simp [Nat.mul_comm]

theorem natural?_toString (n : Nat) : natural? (Text.Utf8.ofString (toString n)) = some n := by
  have digits : (toString n).toList = Nat.toDigits 10 n := by simp
  have own : ∀ c ∈ Nat.toDigits 10 n, c.isDigit = true := fun c hc =>
    Nat.isDigit_of_mem_toDigits (by decide) (by decide) hc
  obtain ⟨all, value⟩ := natural_encode own 0
  rw [Text.Utf8.ofString, digits, natural?, if_pos all, value,
    Nat.ofDigitChars_toDigits (by decide) (by decide)]

theorem Value.IsNatural.asNatBelow {bound : Nat} (h : value.IsNatural n) (small : n < bound) :
    value.asNatBelow bound = .ok n := by
  rw [h, Value.asNatBelow, natural?_toString]
  simp [small]

end BlockVolume.Json
