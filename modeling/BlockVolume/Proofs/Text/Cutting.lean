import BlockVolume.Text.Blank
import Mathlib.Data.List.DropRight
/-!
Cutting texts at blanks and separators.

Trimming a text again changes nothing. A text that is made of two parts around a separator is cut
into the pieces of the first and those of the second, so words that are put side by side are the
fields of the whole, and lines that are closed one after the other are its lines.
-/

namespace BlockVolume.Text

variable {cs : List Char}

/-! ### Trimming -/

theorem trimChars_eq (cs : List Char) :
    trimChars cs = (cs.dropWhile isBlank).rdropWhile isBlank := rfl

/-- A trimmed text does not begin with a blank. -/
theorem dropWhile_trimChars (cs : List Char) :
    (trimChars cs).dropWhile isBlank = trimChars cs := by
  rw [List.dropWhile_eq_self_iff]
  intro some
  have starts : trimChars cs <+: cs.dropWhile isBlank :=
    List.rdropWhile_prefix isBlank _
  have fewer : 0 < (cs.dropWhile isBlank).length := Nat.lt_of_lt_of_le some starts.length_le
  rw [starts.getElem some]
  exact List.dropWhile_eq_self_iff.mp (List.dropWhile_idempotent _ _) fewer

@[simp] theorem trimChars_trimChars (cs : List Char) : trimChars (trimChars cs) = trimChars cs := by
  rw [trimChars_eq, dropWhile_trimChars, trimChars_eq, List.rdropWhile_idempotent]

@[simp] theorem trim_trim (s : String) : trim (trim s) = trim s := by
  simp [trim]

/-! ### Pieces -/

section Pieces

variable {α : Type} {p : α → Bool} {piece rest : List α} {sep : α}

theorem splitOnP_ne_nil (p : α → Bool) (xs : List α) : splitOnP p xs ≠ [] := by
  induction xs with
  | nil => simp [splitOnP]
  | cons x xs ih =>
    rw [splitOnP]
    split
    · simp
    · split <;> simp

theorem splitOnP_cons_of_neg {x : α} (hx : p x = false) (xs : List α) :
    ∃ first others, splitOnP p xs = first :: others ∧
      splitOnP p (x :: xs) = (x :: first) :: others := by
  obtain ⟨first, others, heq⟩ := List.exists_cons_of_ne_nil (splitOnP_ne_nil p xs)
  exact ⟨first, others, heq, by simp [splitOnP, hx, heq]⟩

/-- Pieces on both sides of a separator are cut apart. -/
theorem splitOnP_append (hs : p sep = true) (before after : List α) :
    splitOnP p (before ++ sep :: after) = splitOnP p before ++ splitOnP p after := by
  induction before with
  | nil => simp [splitOnP, hs]
  | cons x before ih =>
    rw [List.cons_append]
    cases hx : p x with
    | true => simp [splitOnP, hx, ih]
    | false =>
      obtain ⟨first, others, heq, cut⟩ := splitOnP_cons_of_neg hx before
      rw [cut, splitOnP, hx, ih, heq]
      rfl

theorem splitOnP_eq_singleton (h : ∀ x ∈ piece, p x = false) : splitOnP p piece = [piece] := by
  induction piece with
  | nil => rfl
  | cons x piece ih =>
    have later := ih fun y hy => h y (List.mem_cons_of_mem x hy)
    simp [splitOnP, h x List.mem_cons_self, later]

/-- Cutting loses the separators and nothing else. -/
theorem flatten_splitOnP (p : α → Bool) (xs : List α) :
    (splitOnP p xs).flatten = xs.filter fun x => !p x := by
  induction xs with
  | nil => rfl
  | cons x xs ih =>
    cases hx : p x with
    | true => simp [splitOnP, hx, ih]
    | false =>
      obtain ⟨first, others, heq, cut⟩ := splitOnP_cons_of_neg hx xs
      rw [heq, List.flatten_cons] at ih
      simp [cut, hx, ih]

/-- No piece has a separator in it. -/
theorem eq_false_of_mem_splitOnP {xs : List α} (h : piece ∈ splitOnP p xs) :
    ∀ x ∈ piece, p x = false := by
  intro x hx
  have kept : x ∈ (splitOnP p xs).flatten := List.mem_flatten.mpr ⟨piece, h, hx⟩
  rw [flatten_splitOnP] at kept
  simpa using (List.mem_filter.mp kept).2

/-- Pieces that were joined are cut apart again. -/
theorem splitOnP_intercalate (hs : p sep = true) {pieces : List (List α)} (some : pieces ≠ [])
    (h : ∀ piece ∈ pieces, ∀ x ∈ piece, p x = false) :
    splitOnP p ([sep].intercalate pieces) = pieces := by
  induction pieces with
  | nil => exact absurd rfl some
  | cons first others ih =>
    have whole := splitOnP_eq_singleton (h first List.mem_cons_self)
    cases others with
    | nil => simpa [List.intercalate] using whole
    | cons second others =>
      have later := ih (by simp) fun piece hp => h piece (List.mem_cons_of_mem first hp)
      rw [List.intercalate_cons_cons, List.append_assoc, List.singleton_append, splitOnP_append hs,
        whole, later]
      rfl

/-- One more piece at the end. -/
theorem intercalate_concat {pieces : List (List α)} (some : pieces ≠ []) (piece : List α) :
    [sep].intercalate (pieces ++ [piece]) = [sep].intercalate pieces ++ sep :: piece := by
  induction pieces with
  | nil => exact absurd rfl some
  | cons first others ih =>
    cases others with
    | nil => simp [List.intercalate]
    | cons second others =>
      have later := ih (by simp)
      rw [List.cons_append] at later
      rw [List.cons_append, List.cons_append, List.intercalate_cons_cons, later,
        List.intercalate_cons_cons]
      simp only [List.append_assoc]

theorem of_mem_intercalate {pieces : List (List α)} {x : α} (h : x ∈ [sep].intercalate pieces) :
    x = sep ∨ ∃ piece ∈ pieces, x ∈ piece := by
  induction pieces with
  | nil => simp at h
  | cons first others ih =>
    cases others with
    | nil => exact Or.inr ⟨first, List.mem_cons_self, by simpa [List.intercalate] using h⟩
    | cons second others =>
      rw [List.intercalate_cons_cons, List.append_assoc] at h
      rcases List.mem_append.mp h with h | h
      · exact Or.inr ⟨first, List.mem_cons_self, h⟩
      rcases List.mem_cons.mp h with h | h
      · exact Or.inl h
      rcases ih h with h | ⟨piece, hp, hx⟩
      · exact Or.inl h
      · exact Or.inr ⟨piece, List.mem_cons_of_mem first hp, hx⟩

end Pieces

/-- What stands before a separator and what stands after it are cut apart at the first one. -/
theorem splitFirst_append {sep : Char} {before : List Char} (h : sep ∉ before) (after : List Char) :
    splitFirst sep (before ++ sep :: after) = some (before, after) := by
  induction before with
  | nil => simp [splitFirst]
  | cons c before ih =>
    have ne : c ≠ sep := fun same => h (same ▸ List.mem_cons_self)
    have later := ih fun mem => h (List.mem_cons_of_mem c mem)
    rw [List.cons_append, splitFirst, if_neg ne, later]
    rfl

/-- A text is cut at its first separator. -/
theorem splitFirst_eq_some_iff {sep : Char} {before after : List Char} :
    splitFirst sep cs = some (before, after) ↔ sep ∉ before ∧ cs = before ++ sep :: after := by
  constructor
  · intro cut
    induction cs generalizing before with
    | nil => cases cut
    | cons c cs ih =>
      rw [splitFirst] at cut
      split at cut
      case isTrue same =>
        cases cut
        simp [same]
      case isFalse ne =>
        obtain ⟨⟨front, back⟩, later, heq⟩ := Option.map_eq_some_iff.mp cut
        obtain ⟨rfl, rfl⟩ := Prod.mk.inj heq
        obtain ⟨absent, rfl⟩ := ih later
        exact ⟨by simp [absent, Ne.symm ne], rfl⟩
  · rintro ⟨absent, rfl⟩
    exact splitFirst_append absent after

/-- Where no separator stands after the last one, a whole is cut there in one way only. -/
theorem append_sep_inj {α : Type} {sep : α} {before before' after after' : List α}
    (last : sep ∉ after) (last' : sep ∉ after') :
    before ++ sep :: after = before' ++ sep :: after' ↔ before = before' ∧ after = after' := by
  refine ⟨fun h => ?_, by rintro ⟨rfl, rfl⟩; rfl⟩
  -- what the one has more before its separator would hold the separator of the other
  rcases List.append_eq_append_iff.mp h with ⟨between, rfl, rest⟩ | ⟨between, rfl, rest⟩
  all_goals
    cases between with
    | nil => simpa [eq_comm] using rest
    | cons c between =>
      obtain ⟨rfl, rfl⟩ := List.cons.inj rest
      simp at last last'

/-! ### Fields -/

/-- The fields on both sides of a blank. -/
theorem fields_append {c : Char} (hc : isBlank c = true) (before after : List Char) :
    fields (before ++ c :: after) = fields before ++ fields after := by
  rw [fields, splitOnP_append hc, List.filter_append]
  rfl

/-- A word is one field. -/
theorem fields_eq_singleton (some : cs ≠ []) (h : ∀ c ∈ cs, isBlank c = false) :
    fields cs = [cs] := by
  rw [fields, splitOnP_eq_singleton h]
  simpa using some

/-- The fields hold all that is not blank. -/
theorem flatten_fields (cs : List Char) : (fields cs).flatten = cs.filter fun c => !isBlank c := by
  rw [← flatten_splitOnP]
  exact List.flatten_filter_not_isEmpty

/-! ### Lines -/

theorem closeLines_concat_nil (pieces : List (List Char)) :
    closeLines (pieces ++ [[]]) = pieces.map dropReturn := by
  induction pieces with
  | nil => rfl
  | cons piece pieces ih =>
    obtain ⟨next, later, heq⟩ : ∃ next later, pieces ++ [[]] = next :: later :=
      List.exists_cons_of_ne_nil (by simp)
    rw [List.cons_append, heq, closeLines, ← heq, ih, List.map_cons]
    simp

/-- Texts that are closed by line feeds are the lines of the whole, each less a carriage return at
its end. -/
theorem lines_flatMap {α : Type} {line : α → List Char} {xs : List α}
    (h : ∀ x ∈ xs, '\n' ∉ line x) :
    lines (xs.flatMap fun x => line x ++ ['\n']) = xs.map fun x => dropReturn (line x) := by
  have cut : splitOnP (· == '\n') (xs.flatMap fun x => line x ++ ['\n']) = xs.map line ++ [[]] := by
    induction xs with
    | nil => rfl
    | cons x xs ih =>
      have whole : splitOnP (· == '\n') (line x) = [line x] :=
        splitOnP_eq_singleton fun c hc => beq_false_of_ne fun heq =>
          h x List.mem_cons_self (heq ▸ hc)
      rw [List.flatMap_cons, List.append_assoc, List.singleton_append, splitOnP_append (by decide),
        whole, ih fun y hy => h y (List.mem_cons_of_mem x hy)]
      rfl
  rw [lines, cut, closeLines_concat_nil, List.map_map]
  rfl

theorem dropReturn_of_ne {line : List Char} (h : line.getLast? ≠ some '\r') :
    dropReturn line = line :=
  if_neg h

end BlockVolume.Text
