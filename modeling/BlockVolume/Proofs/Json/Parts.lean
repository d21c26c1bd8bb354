import BlockVolume.Json.Reader
import BlockVolume.Proofs.Checks
import Mathlib.Data.List.DropRight
/-!
Parts with commas between them.

Items of an array and members of an object are read in one way: part by part, up to the byte that
closes the whole. If the parts that are read are those that a relation allows, then so are the whole
sequences of them, and no others.
-/

namespace BlockVolume.Json

open BlockVolume.Text (Bytes)

variable {bytes rest text gap : Bytes} {c : UInt8}

/-! ### Blanks -/

/-- Blanks alone. -/
def Blanks (bytes : Bytes) : Prop := ∀ b ∈ bytes, isBlankByte b = true

theorem blanks_nil : Blanks [] := by simp [Blanks]

/-- What is skipped are blanks. -/
theorem exists_blanks (bytes : Bytes) : ∃ gap, Blanks gap ∧ bytes = gap ++ skipBlanks bytes :=
  ⟨bytes.takeWhile isBlankByte, fun _ hb => List.mem_takeWhile_imp hb,
    List.takeWhile_append_dropWhile.symm⟩

theorem skipBlanks_append (h : Blanks gap) (rest : Bytes) :
    skipBlanks (gap ++ rest) = skipBlanks rest := by
  rw [skipBlanks, List.dropWhile_append_of_pos h, skipBlanks]

theorem skipBlanks_cons (h : isBlankByte c = false) (rest : Bytes) :
    skipBlanks (c :: rest) = c :: rest :=
  List.dropWhile_cons_of_neg (by simp [h])

theorem skipBlanks_eq_nil_iff : skipBlanks bytes = [] ↔ Blanks bytes := by
  rw [skipBlanks, List.dropWhile_eq_nil_iff, Blanks]

theorem skipBlanks_skipBlanks (bytes : Bytes) : skipBlanks (skipBlanks bytes) = skipBlanks bytes :=
  List.dropWhile_idempotent isBlankByte bytes

/-! ### Where a part ends -/

/-- The rest does not begin with a byte of the kind. -/
def Past (kind : UInt8 → Bool) (rest : Bytes) : Prop := ∀ b tail, rest = b :: tail → kind b = false

@[simp] theorem past_nil (kind : UInt8 → Bool) : Past kind [] := by simp [Past]

@[simp] theorem past_cons {kind : UInt8 → Bool} : Past kind (c :: rest) ↔ kind c = false := by
  simp [Past]

/-- Bytes that go on with a number. -/
def isNumberByte (b : UInt8) : Bool := isDigitByte b || b == 0x2E || b == 0x65 || b == 0x45

/-- No number goes on with a blank. -/
theorem past_blanks (hg : Blanks gap) (past : Past isNumberByte rest) :
    Past isNumberByte (gap ++ rest) := by
  cases gap with
  | nil => exact past
  | cons b gap =>
    have blank := hg b List.mem_cons_self
    refine past_cons.mpr ?_
    simp only [isBlankByte, Bool.or_eq_true, beq_iff_eq] at blank
    rcases blank with ((rfl | rfl) | rfl) | rfl <;> decide

/-! ### Sequences -/

section Sequences

variable {α : Type} {R : α → Bytes → Prop} {readPart : Bytes → Except Error (α × Bytes)}
  {xs : List α} {limit count : Nat}

/-- The bytes of parts, at least one, with commas between them. -/
inductive Separated {α : Type} (R : α → Bytes → Prop) : List α → Bytes → Prop
  | last {x : α} {text : Bytes} (h : R x text) : Separated R [x] text
  | cons {x : α} {xs : List α} {text rest : Bytes} (h : R x text) (later : Separated R xs rest) :
      Separated R (x :: xs) (text ++ 0x2C :: rest)

theorem Separated.exists_first (h : Separated R xs text) :
    ∃ x first last, R x first ∧ text = first ++ last := by
  cases h with
  | last h => exact ⟨_, _, [], h, (List.append_nil _).symm⟩
  | cons h => exact ⟨_, _, _, h, rfl⟩

/-- Reads parts up to a closing byte, `count` parts at most. -/
def readParts (readPart : Bytes → Except Error (α × Bytes)) (close : UInt8) :
    (count : Nat) → Bytes → Except Error (List α × Bytes)
  | 0, _ => .error .unexpectedEnd
  | count + 1, bytes => do
    let (x, rest) ← readPart bytes
    match skipBlanks rest with
    | [] => .error .unexpectedEnd
    | b :: rest =>
      if b = close then .ok ([x], rest)
      else if b = 0x2C then do
        let (xs, rest) ← readParts readPart close count rest
        .ok (x :: xs, rest)
      else .error (.unexpectedByte b)

/-- What is read, with any blanks after it, is a part. -/
def SoundFor (readPart : Bytes → Except Error (α × Bytes)) (R : α → Bytes → Prop) : Prop :=
  ∀ {bytes x rest}, readPart bytes = .ok (x, rest) →
    ∃ text, bytes = text ++ rest ∧ ∀ after, Blanks after → R x (text ++ after)

/-- A part of no more than `limit` bytes is read, but for blanks after it, before a byte that does
not go on with it. -/
def CompleteFor (limit : Nat) (readPart : Bytes → Except Error (α × Bytes))
    (R : α → Bytes → Prop) : Prop :=
  ∀ {x text} (c : UInt8) (rest : Bytes), R x text → text.length ≤ limit → isBlankByte c = false →
    isNumberByte c = false →
    ∃ more, readPart (text ++ c :: rest) = .ok (x, more) ∧ skipBlanks more = c :: rest

theorem separated_of_readParts (sound : SoundFor readPart R)
    (h : readParts readPart c count bytes = .ok (xs, rest)) :
    ∃ text, Separated R xs text ∧ bytes = text ++ c :: rest := by
  induction count generalizing bytes xs rest with
  | zero => cases h
  | succ count ih =>
    obtain ⟨⟨x, more⟩, read, goes⟩ := bind_eq_ok.mp h
    obtain ⟨text, rfl, part⟩ := sound read
    obtain ⟨after, ha, gap⟩ := exists_blanks more
    dsimp only at goes
    split at goes
    case h_1 => cases goes
    case h_2 b tail next =>
      split at goes
      case isTrue closed =>
        obtain ⟨rfl, rfl⟩ := Prod.mk.inj (Except.ok.inj goes)
        exact ⟨_, .last (part after ha), by rw [gap, next, closed, List.append_assoc]⟩
      case isFalse =>
        split at goes
        case isFalse => cases goes
        case isTrue comma =>
          obtain ⟨⟨others, more⟩, read, goes⟩ := bind_eq_ok.mp goes
          obtain ⟨rfl, rfl⟩ := Prod.mk.inj (Except.ok.inj goes)
          obtain ⟨later, separated, rfl⟩ := ih read
          exact ⟨_, .cons (part after ha) separated, by rw [gap, next, comma]; simp⟩

theorem readParts_of_separated (complete : CompleteFor limit readPart R) (h : Separated R xs text)
    (short : text.length ≤ limit) (few : text.length < count) (solid : isBlankByte c = false)
    (ends : isNumberByte c = false) (other : c ≠ 0x2C) (rest : Bytes) :
    readParts readPart c count (text ++ c :: rest) = .ok (xs, rest) := by
  -- a part stands before the byte that closes or before a comma, and goes on with neither
  induction h generalizing count with
  | last part =>
    obtain ⟨count, rfl⟩ := Nat.exists_eq_add_one_of_ne_zero (Nat.ne_zero_of_lt few)
    obtain ⟨more, read, next⟩ := complete c rest part short solid ends
    rw [readParts, read]
    simp [Bind.bind, Except.bind, next]
  | @cons x xs text later part separated ih =>
    obtain ⟨count, rfl⟩ := Nat.exists_eq_add_one_of_ne_zero (Nat.ne_zero_of_lt few)
    simp only [List.length_append, List.length_cons] at short few
    obtain ⟨more, read, next⟩ := complete 0x2C (later ++ c :: rest) part (by omega) (by decide)
      (by decide)
    have others : readParts readPart c count (later ++ c :: rest) = .ok (xs, rest) :=
      ih (by omega) (by omega)
    rw [List.append_assoc, List.cons_append, readParts, read]
    simp [Bind.bind, Except.bind, next, others, Ne.symm other]

end Sequences

end BlockVolume.Json
