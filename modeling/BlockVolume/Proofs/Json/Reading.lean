import BlockVolume.Proofs.Json.Grammar
/-!
Documents read from their bytes.

The reader takes the bytes that the grammar allows and no others. Both halves go down the brackets:
what is read below one bracket more is made of what is read below one bracket less, and a text with
its brackets is longer than the text between them, so the number of bytes is depth enough.
-/

namespace BlockVolume.Json

open BlockVolume.Text (Bytes)

variable {bytes rest text gap : Bytes} {value : Value} {depth count : Nat}

theorem readWord_append (word rest : Bytes) : readWord word (word ++ rest) = .ok rest := by
  induction word with
  | nil => rfl
  | cons b word ih => simp [readWord, ih]

theorem readWord_eq_ok_iff {word : Bytes} :
    readWord word bytes = .ok rest ↔ bytes = word ++ rest := by
  constructor
  · intro h
    fun_induction readWord word bytes with
    | case1 bytes =>
      obtain rfl := Except.ok.inj h
      rfl
    | case2 w word b bytes same ih =>
      obtain rfl := eq_of_beq same
      rw [ih h, List.cons_append]
    | case3 | case4 => cases h
  · rintro rfl
    exact readWord_append word rest

/-! ### Sequences -/

/-- Reads one member of an object: a name in quotes, a colon and a value. -/
def readMember (depth : Nat) (bytes : Bytes) : Except Error ((Bytes × Value) × Bytes) :=
  match skipBlanks bytes with
  | 0x22 :: rest => do
    let (name, rest) ← readString rest
    match skipBlanks rest with
    | 0x3A :: rest =>
      let (value, rest) ← readValue depth rest
      .ok ((name, value), rest)
    | rest => .error (unexpected rest)
  | rest => .error (unexpected rest)

theorem readItems_eq (depth count : Nat) (bytes : Bytes) :
    readItems depth count bytes = readParts (readValue depth) 0x5D count bytes := by
  induction count generalizing bytes with
  | zero => rw [readItems, readParts]
  | succ count ih =>
    rw [readItems, readParts]
    refine congrArg (readValue depth bytes >>= ·) (funext ?_)
    rintro ⟨item, rest⟩
    dsimp only
    cases skipBlanks rest with
    | nil => rfl
    | cons b rest =>
      by_cases closed : b = 0x5D
      · simp [closed]
      by_cases comma : b = 0x2C
      · simp [comma, ih]
      · simp [closed, comma, unexpected]

theorem readMembers_eq (depth count : Nat) (bytes : Bytes) :
    readMembers depth count bytes = readParts (readMember depth) 0x7D count bytes := by
  induction count generalizing bytes with
  | zero => rw [readMembers, readParts]
  | succ count ih =>
    rw [readMembers, readParts, readMember]
    -- both stop with the same error where a member does not go on
    cases skipBlanks bytes with
    | nil => rfl
    | cons b rest =>
      by_cases quoted : b = 0x22
      case neg => simp [quoted, unexpected, Bind.bind, Except.bind]
      subst quoted
      simp only
      rw [bind_assoc]
      refine congrArg (readString rest >>= ·) (funext ?_)
      rintro ⟨name, rest⟩
      dsimp only
      cases skipBlanks rest with
      | nil => rfl
      | cons b rest =>
        by_cases colon : b = 0x3A
        case neg => simp [colon, unexpected, Bind.bind, Except.bind]
        subst colon
        simp only
        rw [bind_assoc]
        refine congrArg (readValue depth rest >>= ·) (funext ?_)
        rintro ⟨value, rest⟩
        simp only [Bind.bind, Except.bind]
        cases skipBlanks rest with
        | nil => rfl
        | cons b rest =>
          by_cases closed : b = 0x7D
          · simp [closed]
          by_cases comma : b = 0x2C
          · simp [comma, ih]
          · simp [closed, comma, unexpected]

/-! ### Blanks before what is read -/

theorem readValue_skipBlanks (depth : Nat) (bytes : Bytes) :
    readValue depth (skipBlanks bytes) = readValue depth bytes := by
  rw [readValue, readValue, skipBlanks_skipBlanks]

theorem readItems_skipBlanks (depth count : Nat) (bytes : Bytes) :
    readItems depth count (skipBlanks bytes) = readItems depth count bytes := by
  cases count with
  | zero => rw [readItems, readItems]
  | succ count => rw [readItems, readItems, readValue_skipBlanks]

theorem readMembers_skipBlanks (depth count : Nat) (bytes : Bytes) :
    readMembers depth count (skipBlanks bytes) = readMembers depth count bytes := by
  cases count with
  | zero => rw [readMembers, readMembers]
  | succ count => rw [readMembers, readMembers, skipBlanks_skipBlanks]

/-! ### What is read is written -/

/-- The values that are read with brackets up to a depth are written where they were read. -/
def SoundTo (depth : Nat) : Prop :=
  ∀ {bytes rest : Bytes} {value : Value}, readValue depth bytes = .ok (value, rest) →
    ∃ gap text, Blanks gap ∧ Written value text ∧ bytes = gap ++ (text ++ rest)

theorem soundFor_readValue (sound : SoundTo depth) : SoundFor (readValue depth) Document := by
  intro bytes value rest h
  obtain ⟨before, text, hb, written, rfl⟩ := sound h
  exact ⟨before ++ text, by simp, fun after ha => by simpa using Document.mk hb written ha⟩

theorem soundFor_readMember (sound : SoundTo depth) : SoundFor (readMember depth) Member := by
  intro bytes member rest h
  obtain ⟨before, hb, opened⟩ := exists_blanks bytes
  rw [readMember] at h
  split at h
  case h_2 => cases h
  case h_1 quoted start =>
    obtain ⟨⟨name, more⟩, read, goes⟩ := bind_eq_ok.mp h
    obtain ⟨hn, rfl⟩ := readString_eq_ok_iff.mp read
    obtain ⟨after, ha, named⟩ := exists_blanks more
    dsimp only at goes
    split at goes
    case h_2 => cases goes
    case h_1 valued colon =>
      obtain ⟨⟨value, more⟩, read, goes⟩ := bind_eq_ok.mp goes
      obtain ⟨rfl, rfl⟩ := Prod.mk.inj (Except.ok.inj goes)
      obtain ⟨text, rfl, document⟩ := soundFor_readValue sound read
      refine ⟨before ++ 0x22 :: (name ++ 0x22 :: (after ++ 0x3A :: text)), ?_, fun last hl => ?_⟩
      · rw [opened, start, named, colon]
        simp
      · simpa using Member.mk hb hn ha (document last hl)

/-- Below one bracket more, the items and members are read below one less. -/
theorem soundTo_of_below (below : ∀ d, depth = d + 1 → SoundTo d) : SoundTo depth := by
  intro bytes rest value h
  obtain ⟨gap, hg, whole⟩ := exists_blanks bytes
  have written {text : Bytes} (h : Written value text) (at_ : skipBlanks bytes = text ++ rest) :
      ∃ gap text, Blanks gap ∧ Written value text ∧ bytes = gap ++ (text ++ rest) :=
    ⟨gap, text, hg, h, at_ ▸ whole⟩
  have word {b : UInt8} {letters tail : Bytes} {fixed : Value}
      (shape : Written fixed (b :: letters))
      (starts : skipBlanks bytes = b :: tail)
      (goes : (readWord letters tail).map (fun rest => (fixed, rest)) = .ok (value, rest)) :
      ∃ gap text, Blanks gap ∧ Written value text ∧ bytes = gap ++ (text ++ rest) := by
    obtain ⟨more, read, goes⟩ := map_eq_ok.mp goes
    obtain ⟨rfl, rfl⟩ := Prod.mk.inj goes
    exact written shape (by rw [starts, readWord_eq_ok_iff.mp read]; rfl)
  rw [readValue] at h
  split at h
  case h_1 => cases h
  case h_2 tail starts => exact word .null starts h
  case h_3 tail starts => exact word .yes starts h
  case h_4 tail starts => exact word .no starts h
  case h_5 tail starts =>
    obtain ⟨⟨raw, more⟩, read, goes⟩ := map_eq_ok.mp h
    obtain ⟨rfl, rfl⟩ := Prod.mk.inj goes
    obtain ⟨body, rfl⟩ := readString_eq_ok_iff.mp read
    exact written (.string body) (by rw [starts]; simp)
  case h_6 tail starts =>
    split at h
    case h_1 => cases h
    case h_2 d =>
      split at h
      case h_1 more closed =>
        obtain ⟨rfl, rfl⟩ := Prod.mk.inj (Except.ok.inj h)
        obtain ⟨inner, hi, opened⟩ := exists_blanks tail
        exact written (.emptyArray hi) (by rw [starts, opened, closed]; simp)
      case h_2 =>
        obtain ⟨⟨items, more⟩, read, goes⟩ := map_eq_ok.mp h
        obtain ⟨rfl, rfl⟩ := Prod.mk.inj goes
        rw [readItems_skipBlanks, readItems_eq] at read
        obtain ⟨text, inside, rfl⟩ := separated_of_readParts (soundFor_readValue (below d rfl)) read
        exact written (.array inside) (by rw [starts]; simp)
  case h_7 tail starts =>
    split at h
    case h_1 => cases h
    case h_2 d =>
      split at h
      case h_1 more closed =>
        obtain ⟨rfl, rfl⟩ := Prod.mk.inj (Except.ok.inj h)
        obtain ⟨inner, hi, opened⟩ := exists_blanks tail
        exact written (.emptyObject hi) (by rw [starts, opened, closed]; simp)
      case h_2 =>
        obtain ⟨⟨members, more⟩, read, goes⟩ := map_eq_ok.mp h
        obtain ⟨rfl, rfl⟩ := Prod.mk.inj goes
        rw [readMembers_skipBlanks, readMembers_eq] at read
        obtain ⟨text, inside, rfl⟩ := separated_of_readParts (soundFor_readMember (below d rfl)) read
        exact written (.object inside) (by rw [starts]; simp)
  case h_8 b tail _ _ _ _ _ _ starts =>
    split at h
    case isFalse => cases h
    case isTrue =>
      obtain ⟨⟨literal, more⟩, read, goes⟩ := map_eq_ok.mp h
      obtain ⟨rfl, rfl⟩ := Prod.mk.inj goes
      obtain ⟨numeral, taken⟩ := numeral_of_readNumber read
      exact written (.number numeral) (starts.trans taken)

theorem soundTo (depth : Nat) : SoundTo depth := by
  induction depth with
  | zero => exact soundTo_of_below fun d hd => absurd hd (by simp)
  | succ depth ih => exact soundTo_of_below fun d hd => Nat.succ.inj hd ▸ ih

/-! ### What is written is read -/

/-- The values with texts up to a length are read where they are written. -/
def CompleteTo (depth : Nat) : Prop :=
  ∀ {value : Value} {gap text rest : Bytes}, Written value text → text.length ≤ depth →
    Blanks gap → Past isNumberByte rest → readValue depth (gap ++ (text ++ rest)) = .ok (value, rest)

theorem not_blank_of_number {b : UInt8} (h : (b == 0x2D || isDigitByte b) = true) :
    isBlankByte b = false := by
  grind [isBlankByte, isDigitByte]

/-- A value begins with a byte that is no blank and closes no array. -/
theorem Written.exists_cons (h : Written value text) :
    ∃ b tail, text = b :: tail ∧ isBlankByte b = false ∧ b ≠ 0x5D := by
  cases h with
  | number h =>
    obtain ⟨b, tail, rfl, starts⟩ := h.exists_cons
    refine ⟨b, tail, rfl, not_blank_of_number starts, ?_⟩
    rintro rfl
    exact absurd starts (by decide)
  | null | yes | no | string | emptyArray | array | emptyObject | object =>
    exact ⟨_, _, rfl, by decide, by decide⟩

theorem Document.exists_cons (h : Document value text) :
    ∃ gap b tail, Blanks gap ∧ text = gap ++ b :: tail ∧ isBlankByte b = false ∧ b ≠ 0x5D := by
  obtain ⟨hb, written, ha⟩ := h
  obtain ⟨b, tail, rfl, solid, inside⟩ := written.exists_cons
  exact ⟨_, b, _, hb, rfl, solid, inside⟩

theorem Member.exists_cons {member : Bytes × Value} (h : Member member text) :
    ∃ gap tail, Blanks gap ∧ text = gap ++ 0x22 :: tail := by
  obtain ⟨hb⟩ := h
  exact ⟨_, _, hb, rfl⟩

/-- A value with blanks around it is read up to the byte after them. -/
theorem completeFor_readValue (complete : CompleteTo depth) :
    CompleteFor depth (readValue depth) Document := by
  rintro value _ c rest ⟨hb, written, ha⟩ short solid ends
  simp only [List.length_append] at short
  refine ⟨_ ++ c :: rest, ?_, by rw [skipBlanks_append ha, skipBlanks_cons solid]⟩
  rw [List.append_assoc, List.append_assoc]
  exact complete written (by omega) hb (past_blanks ha (past_cons.mpr ends))

theorem completeFor_readMember (complete : CompleteTo depth) :
    CompleteFor depth (readMember depth) Member := by
  rintro member _ c rest ⟨hb, hn, ha, document⟩ short solid ends
  simp only [List.length_append, List.length_cons] at short
  obtain ⟨more, read, next⟩ := completeFor_readValue complete c rest document (by omega) solid ends
  refine ⟨more, ?_, next⟩
  simp [readMember, Bind.bind, Except.bind, skipBlanks_append hb, skipBlanks_append ha,
    skipBlanks_cons, isBlankByte, readString_of_body hn, read]

theorem readValue_array (depth : Nat) (rest : Bytes) :
    readValue (depth + 1) (0x5B :: rest) =
      match skipBlanks rest with
      | 0x5D :: rest => .ok (.array [], rest)
      | rest => (readItems depth depth rest).map fun (items, rest) => (.array items, rest) := by
  rw [readValue, skipBlanks_cons (by decide)]
  rfl

theorem readValue_object (depth : Nat) (rest : Bytes) :
    readValue (depth + 1) (0x7B :: rest) =
      match skipBlanks rest with
      | 0x7D :: rest => .ok (.object [], rest)
      | rest => (readMembers depth depth rest).map fun (members, rest) =>
        (.object members, rest) := by
  rw [readValue, skipBlanks_cons (by decide)]
  rfl

theorem readValue_of_numeral {literal : Bytes} (numeral : Numeral literal)
    (past : Past isNumberByte rest) (depth : Nat) :
    readValue depth (literal ++ rest) = .ok (.number literal, rest) := by
  obtain ⟨b, tail, rfl, starts⟩ := numeral.exists_cons
  rw [readValue, List.cons_append, skipBlanks_cons (not_blank_of_number starts)]
  split
  case h_8 same =>
    obtain ⟨rfl, rfl⟩ := List.cons.inj same
    rw [if_pos starts, ← List.cons_append, readNumber_of_numeral numeral past]
    rfl
  case h_1 same => cases same
  all_goals
    obtain ⟨rfl, -⟩ := List.cons.inj ‹_›
    exact absurd starts (by decide)

theorem readValue_of_items {items : List Value} (complete : CompleteTo depth)
    (inside : Separated Document items text) (fits : text.length < depth) (rest : Bytes) :
    readValue (depth + 1) (0x5B :: (text ++ 0x5D :: rest)) = .ok (.array items, rest) := by
  have read : readParts (readValue depth) 0x5D depth (text ++ 0x5D :: rest) = .ok (items, rest) :=
    readParts_of_separated (completeFor_readValue complete) inside (by omega) fits (by decide)
      (by decide) (by decide) rest
  rw [readValue_array]
  split
  case h_1 closed =>
    -- an array with items does not close at once
    obtain ⟨item, first, last, document, rfl⟩ := inside.exists_first
    obtain ⟨gap, b, tail, hg, rfl, solid, other⟩ := document.exists_cons
    rw [List.append_assoc, List.append_assoc, skipBlanks_append hg, List.cons_append,
      skipBlanks_cons solid] at closed
    exact absurd (List.cons.inj closed).1 other
  case h_2 =>
    rw [readItems_skipBlanks, readItems_eq, read]
    rfl

theorem readValue_of_members {members : List (Bytes × Value)} (complete : CompleteTo depth)
    (inside : Separated Member members text) (fits : text.length < depth) (rest : Bytes) :
    readValue (depth + 1) (0x7B :: (text ++ 0x7D :: rest)) = .ok (.object members, rest) := by
  have read : readParts (readMember depth) 0x7D depth (text ++ 0x7D :: rest) =
      .ok (members, rest) :=
    readParts_of_separated (completeFor_readMember complete) inside (by omega) fits (by decide)
      (by decide) (by decide) rest
  rw [readValue_object]
  split
  case h_1 closed =>
    obtain ⟨member, first, last, named, rfl⟩ := inside.exists_first
    obtain ⟨gap, tail, hg, rfl⟩ := named.exists_cons
    rw [List.append_assoc, List.append_assoc, skipBlanks_append hg, List.cons_append,
      skipBlanks_cons (by decide)] at closed
    exact absurd (List.cons.inj closed).1 (by decide)
  case h_2 =>
    rw [readMembers_skipBlanks, readMembers_eq, read]
    rfl

theorem completeTo_of_below (below : ∀ d, depth = d + 1 → CompleteTo d) : CompleteTo depth := by
  intro value gap text rest written short hg past
  -- a bracket is one level
  have deep {inner : Bytes} {first last : UInt8}
      (short : (first :: (inner ++ [last])).length ≤ depth) :
      ∃ d, depth = d + 1 ∧ inner.length < d := by
    simp only [List.length_cons, List.length_append, List.length_nil] at short
    exact ⟨depth - 1, by omega, by omega⟩
  rw [← readValue_skipBlanks, skipBlanks_append hg, readValue_skipBlanks]
  cases written with
  | null | yes | no => simp [readValue, skipBlanks_cons, isBlankByte, readWord, Except.map]
  | string body =>
    simp [readValue, skipBlanks_cons, isBlankByte, readString_of_body body, Except.map]
  | number numeral => exact readValue_of_numeral numeral past depth
  | emptyArray inner =>
    obtain ⟨d, rfl, -⟩ := deep short
    simp [readValue_array, skipBlanks_append inner, skipBlanks_cons, isBlankByte]
  | emptyObject inner =>
    obtain ⟨d, rfl, -⟩ := deep short
    simp [readValue_object, skipBlanks_append inner, skipBlanks_cons, isBlankByte]
  | array inside =>
    obtain ⟨d, rfl, fits⟩ := deep short
    simpa using readValue_of_items (below d rfl) inside fits rest
  | object inside =>
    obtain ⟨d, rfl, fits⟩ := deep short
    simpa using readValue_of_members (below d rfl) inside fits rest

theorem completeTo (depth : Nat) : CompleteTo depth := by
  induction depth with
  | zero => exact completeTo_of_below fun d hd => absurd hd (by simp)
  | succ depth ih => exact completeTo_of_below fun d hd => Nat.succ.inj hd ▸ ih

/-- Bytes are read exactly if they are a document, and as the value that it is written for. -/
theorem read_eq_ok_iff : read bytes = .ok value ↔ Document value bytes := by
  constructor
  · intro h
    obtain ⟨⟨found, rest⟩, read, goes⟩ := bind_eq_ok.mp h
    obtain ⟨before, text, hb, written, rfl⟩ := soundTo _ read
    dsimp only at goes
    split at goes
    case h_2 => cases goes
    case h_1 closed =>
      obtain rfl := Except.ok.inj goes
      exact .mk hb written (skipBlanks_eq_nil_iff.mp closed)
  · intro h
    cases h with
    | @mk value before text after hb written ha =>
      have past := past_blanks ha (past_nil isNumberByte)
      have short : text.length ≤ (before ++ (text ++ after)).length := by
        simp only [List.length_append]
        omega
      have value := completeTo _ written short hb past
      rw [List.append_nil] at value
      exact bind_eq_ok.mpr ⟨_, value, by simp [skipBlanks_eq_nil_iff.mpr ha]⟩

end BlockVolume.Json
