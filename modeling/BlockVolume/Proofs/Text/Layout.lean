import BlockVolume.Proofs.Text.Cutting
/-!
Words, lines and pieces, as they stand in a text.

Each relation says how a text is laid out, without saying how it is cut. Every text is laid out in
one way only, and the cut gives just the parts of that way. So it is with a text and the blanks
around it.
-/

namespace BlockVolume.Text

variable {cs line : List Char} {words ls : List (List Char)}

/-! ### Blanks around a text -/

/-- The second text is the first one without the blanks around it. -/
structure Trimmed (cs core : List Char) : Prop where
  around : ∃ before after, cs = before ++ core ++ after ∧ ∀ c ∈ before ++ after, isBlank c = true
  first : ∀ c ∈ core.head?, isBlank c = false
  last : ∀ c ∈ core.getLast?, isBlank c = false

theorem dropWhile_eq_self {core : List Char} (first : ∀ c ∈ core.head?, isBlank c = false) :
    core.dropWhile isBlank = core := by
  cases core with
  | nil => rfl
  | cons c core => exact List.dropWhile_cons_of_neg (by simpa using first c)

/-- Trimming takes all blanks before a text, then all blanks after it. -/
theorem Trimmed.trimChars_eq {core : List Char} (h : Trimmed cs core) : trimChars cs = core := by
  obtain ⟨⟨before, after, rfl, blank⟩, first, last⟩ := h
  obtain ⟨early, late⟩ := List.forall_mem_append.mp blank
  have back : core.reverse.dropWhile isBlank = core.reverse :=
    dropWhile_eq_self (by simpa using last)
  have late' : ∀ c ∈ after.reverse, isBlank c = true := by simpa using late
  rw [trimChars, List.append_assoc, List.dropWhile_append_of_pos early]
  cases core with
  | nil => simp [List.dropWhile_eq_nil_iff.mpr late]
  | cons c core =>
    have solid : ¬isBlank c = true := by simpa using first c
    rw [List.cons_append, List.dropWhile_cons_of_neg solid, ← List.cons_append, List.reverse_append,
      List.dropWhile_append_of_pos late', back, List.reverse_reverse]

theorem trimmed_trimChars (cs : List Char) : Trimmed cs (trimChars cs) := by
  constructor
  case around =>
    refine ⟨cs.takeWhile isBlank, (cs.dropWhile isBlank).rtakeWhile isBlank, ?_, fun c hc => ?_⟩
    · rw [trimChars_eq, List.append_assoc, List.rdropWhile_append_rtakeWhile,
        List.takeWhile_append_dropWhile]
    · rcases List.mem_append.mp hc with hc | hc
      · exact List.mem_takeWhile_imp hc
      · exact List.mem_rtakeWhile_imp hc
  case first =>
    intro c hc
    have kept := List.head?_dropWhile_not isBlank (trimChars cs)
    rw [dropWhile_trimChars, Option.mem_def.mp hc] at kept
    simpa using kept
  case last =>
    intro c hc
    have kept := List.head?_dropWhile_not isBlank (cs.dropWhile isBlank).reverse
    rw [trimChars, List.getLast?_reverse] at hc
    rw [Option.mem_def.mp hc] at kept
    simpa using kept

theorem trimChars_eq_iff {core : List Char} : trimChars cs = core ↔ Trimmed cs core := by
  refine ⟨?_, Trimmed.trimChars_eq⟩
  rintro rfl
  exact trimmed_trimChars cs

/-! ### Words -/

/-- Words that are set apart by blanks, with any blanks around them. -/
inductive Words : List Char → List (List Char) → Prop
  | nil : Words [] []
  | blank {c : Char} {cs : List Char} {words : List (List Char)} (hc : isBlank c = true)
      (later : Words cs words) : Words (c :: cs) words
  | last {word : List Char} (nonempty : word ≠ []) (solid : ∀ c ∈ word, isBlank c = false) :
      Words word [word]
  | word {word : List Char} {c : Char} {cs : List Char} {words : List (List Char)}
      (nonempty : word ≠ []) (solid : ∀ c ∈ word, isBlank c = false) (hc : isBlank c = true)
      (later : Words cs words) : Words (word ++ c :: cs) (word :: words)

/-- The words of a text are its fields. -/
theorem Words.fields_eq (h : Words cs words) : fields cs = words := by
  induction h with
  | nil => rfl
  | blank hc later ih => exact (fields_append hc [] _).trans ih
  | last nonempty solid => exact fields_eq_singleton nonempty solid
  | word nonempty solid hc later ih =>
    rw [fields_append hc, fields_eq_singleton nonempty solid, ih]
    rfl

/-- Every text is made of words: one more character is a blank before them, or begins the first. -/
theorem exists_words (cs : List Char) : ∃ words, Words cs words := by
  induction cs with
  | nil => exact ⟨[], .nil⟩
  | cons c cs ih =>
    obtain ⟨words, later⟩ := ih
    cases hc : isBlank c with
    | true => exact ⟨words, .blank hc later⟩
    | false =>
      have alone : ∀ d ∈ [c], isBlank d = false := by simpa using hc
      have longer {word : List Char} (solid : ∀ d ∈ word, isBlank d = false) :
          ∀ d ∈ c :: word, isBlank d = false := List.forall_mem_cons.mpr ⟨hc, solid⟩
      cases later with
      | nil => exact ⟨[[c]], .last (List.cons_ne_nil c []) alone⟩
      | blank hd later => exact ⟨[c] :: words, .word (List.cons_ne_nil c []) alone hd later⟩
      | last nonempty solid => exact ⟨[c :: cs], .last (List.cons_ne_nil c cs) (longer solid)⟩
      | @word word d cs words nonempty solid hd later =>
        exact ⟨(c :: word) :: words, .word (List.cons_ne_nil c word) (longer solid) hd later⟩

theorem fields_eq_iff : fields cs = words ↔ Words cs words := by
  refine ⟨?_, Words.fields_eq⟩
  rintro rfl
  obtain ⟨words, h⟩ := exists_words cs
  rwa [h.fields_eq]

/-! ### Lines -/

/-- Lines that are each ended by a line feed, or by a carriage return and a line feed; the last one
may be ended by the text. -/
inductive Lines : List Char → List (List Char) → Prop
  | nil : Lines [] []
  | last {line : List Char} (nonempty : line ≠ []) (whole : '\n' ∉ line) : Lines line [line]
  | feed {line rest : List Char} {ls : List (List Char)} (whole : '\n' ∉ line)
      (bare : line.getLast? ≠ some '\r') (later : Lines rest ls) :
      Lines (line ++ '\n' :: rest) (line :: ls)
  | returnFeed {line rest : List Char} {ls : List (List Char)} (whole : '\n' ∉ line)
      (later : Lines rest ls) : Lines (line ++ '\r' :: '\n' :: rest) (line :: ls)

theorem splitOnP_line (whole : '\n' ∉ line) : splitOnP (· == '\n') line = [line] :=
  splitOnP_eq_singleton fun _ hc => beq_false_of_ne fun heq => whole (heq ▸ hc)

/-- A line that is ended stands before the lines of the rest. -/
theorem lines_append (whole : '\n' ∉ line) (rest : List Char) :
    lines (line ++ '\n' :: rest) = dropReturn line :: lines rest := by
  obtain ⟨first, others, heq⟩ := List.exists_cons_of_ne_nil (splitOnP_ne_nil (· == '\n') rest)
  rw [lines, splitOnP_append (by decide), splitOnP_line whole, lines, heq]
  rfl

theorem dropReturn_append (line : List Char) : dropReturn (line ++ ['\r']) = line := by
  simp [dropReturn]

theorem Lines.lines_eq (h : Lines cs ls) : lines cs = ls := by
  induction h with
  | nil => rfl
  | last nonempty whole => simp [lines, splitOnP_line whole, closeLines, nonempty]
  | feed whole bare later ih => rw [lines_append whole, dropReturn_of_ne bare, ih]
  | @returnFeed line rest ls whole later ih =>
    have whole' : '\n' ∉ line ++ ['\r'] := by simpa using whole
    rw [List.append_cons line '\r', lines_append whole', dropReturn_append, ih]

/-- Every text is made of lines: one more character is an empty line, or begins the first one. -/
theorem exists_lines (cs : List Char) : ∃ ls, Lines cs ls := by
  induction cs with
  | nil => exact ⟨[], .nil⟩
  | cons c cs ih =>
    obtain ⟨ls, later⟩ := ih
    have empty : '\n' ∉ ([] : List Char) := List.not_mem_nil
    by_cases hc : c = '\n'
    · subst hc
      exact ⟨[] :: ls, .feed empty (by simp) later⟩
    have longer {line : List Char} (whole : '\n' ∉ line) : '\n' ∉ c :: line :=
      List.not_mem_cons_of_ne_of_not_mem (Ne.symm hc) whole
    cases later with
    | nil => exact ⟨[[c]], .last (List.cons_ne_nil c []) (longer empty)⟩
    | last nonempty whole => exact ⟨[c :: cs], .last (List.cons_ne_nil c cs) (longer whole)⟩
    | @returnFeed line rest ls whole later =>
      exact ⟨(c :: line) :: ls, .returnFeed (longer whole) later⟩
    | @feed line rest ls whole bare later =>
      by_cases ends : (c :: line).getLast? = some '\r'
      · -- a carriage return alone, before the line feed
        cases line with
        | nil =>
          obtain rfl : c = '\r' := by simpa using ends
          exact ⟨[] :: ls, .returnFeed empty later⟩
        | cons d line => exact absurd (by simpa using ends) bare
      · exact ⟨(c :: line) :: ls, .feed (longer whole) ends later⟩

theorem lines_eq_iff : lines cs = ls ↔ Lines cs ls := by
  refine ⟨?_, Lines.lines_eq⟩
  rintro rfl
  obtain ⟨ls, h⟩ := exists_lines cs
  rwa [h.lines_eq]

/-! ### Pieces -/

section Pieces

variable {α : Type} [BEq α] [LawfulBEq α] {sep : α} {xs : List α} {pieces : List (List α)}

/-- Cut pieces are joined to what was cut. -/
theorem intercalate_splitOnP (sep : α) (xs : List α) :
    [sep].intercalate (splitOnP (· == sep) xs) = xs := by
  induction xs with
  | nil => rfl
  | cons x xs ih =>
    obtain ⟨first, others, heq⟩ := List.exists_cons_of_ne_nil (splitOnP_ne_nil (· == sep) xs)
    cases hx : x == sep with
    | true =>
      obtain rfl := eq_of_beq hx
      rw [splitOnP, if_pos hx, heq, List.intercalate_cons_cons, ← heq, ih]
      rfl
    | false =>
      obtain ⟨first, others, heq, cut⟩ := splitOnP_cons_of_neg (p := (· == sep)) hx xs
      rw [heq] at ih
      rw [cut]
      cases others with
      | nil =>
        obtain rfl : first = xs := by simpa [List.intercalate] using ih
        simp [List.intercalate]
      | cons second others =>
        rw [List.intercalate_cons_cons] at ih ⊢
        rw [← ih]
        rfl

/-- The pieces of a list: at least one, none with a separator in it, and the list has just one
separator between each two. -/
theorem splitOnP_eq_iff : splitOnP (· == sep) xs = pieces ↔
    pieces ≠ [] ∧ (∀ piece ∈ pieces, sep ∉ piece) ∧ [sep].intercalate pieces = xs := by
  constructor
  · rintro rfl
    refine ⟨splitOnP_ne_nil _ xs, fun piece hp hs => ?_, intercalate_splitOnP sep xs⟩
    have none := eq_false_of_mem_splitOnP hp sep hs
    simp at none
  · rintro ⟨nonempty, apart, rfl⟩
    refine splitOnP_intercalate (by simp) nonempty fun piece hp x hx => ?_
    exact beq_false_of_ne fun heq => apart piece hp (heq ▸ hx)

end Pieces

end BlockVolume.Text
