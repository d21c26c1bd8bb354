import BlockVolume.Proofs.Checks
import BlockVolume.Proofs.Mount.TableText
import BlockVolume.Proofs.Text.Layout
/-!
The grammar of mount tables.

A table is the text of lines that are each blank or an entry of six words. `IsTable` says so of the
bytes, without a reader; the reader takes just these bytes, and gives one mount for each entry. An
entry that it cannot take is not left out: it leaves no table at all.
-/

namespace BlockVolume.Mount

open BlockVolume.Text

variable {line : List Char} {ls : List (List Char)} {point : MountPoint} {table : MountTable}

/-- A word that tells an integer of 64 bits. -/
structure TellsInteger (word : List Char) (value : Int) : Prop where
  numeral : Decimal.IsNumeral word value
  least : Decimal.minValue ≤ value
  greatest : value ≤ Decimal.maxValue

/-- A line of six words, the last two of which are integers. -/
def IsEntry (line : List Char) : Prop :=
  ∃ device path kind options freq pass, Words line [device, path, kind, options, freq, pass] ∧
    (∃ value, TellsInteger freq value) ∧ ∃ value, TellsInteger pass value

/-- A line that tells a mount: its device, type and options as they stand there, with commas between
the options, and its path unescaped. -/
structure Tells (line : List Char) (point : MountPoint) : Prop where
  words : ∃ path freq pass, Words line [point.device.text.toList, path, point.kind.toList,
      optionText point, freq, pass] ∧ point.path.text = String.ofList (Octal.decode path) ∧
    TellsInteger freq point.freq ∧ TellsInteger pass point.pass
  options : point.options ≠ [] ∧ ∀ option ∈ point.options, ',' ∉ option.toList

/-- Lines that are not blank. -/
def shownLines (ls : List (List Char)) : List (List Char) :=
  ls.filter fun line => !line.all isBlank

/-- The bytes are those of a text all of whose lines that are not blank are entries. -/
def IsTable (bytes : Bytes) : Prop :=
  ∃ text ls, Utf8.encode text = bytes ∧ Lines text ls ∧ ∀ line ∈ shownLines ls, IsEntry line

/-- The bytes are those of a text whose lines tell the mounts of a table, one for each line that is
not blank, in their order. -/
def TellsTable (bytes : Bytes) (table : MountTable) : Prop :=
  ∃ text ls, Utf8.encode text = bytes ∧ Lines text ls ∧ List.Forall₂ Tells (shownLines ls) table

/-! ### One line -/

theorem parseInteger_eq_ok_iff {name : String} {word : List Char} {value : Int} :
    parseInteger name word = .ok value ↔ TellsInteger word value := by
  have told : TellsInteger word value ↔ Decimal.read word = .ok value := by
    rw [Decimal.read_eq_ok_iff]
    exact ⟨fun ⟨numeral, least, greatest⟩ => ⟨numeral, least, greatest⟩,
      fun ⟨numeral, least, greatest⟩ => ⟨numeral, least, greatest⟩⟩
  rw [told, parseInteger]
  cases Decimal.read word <;> simp

/-- The options of a field are the pieces between its commas. -/
theorem map_splitOnP_eq_iff {field : List Char} {options : List String} :
    (splitOnP (· == ',') field).map String.ofList = options ↔
      (options ≠ [] ∧ ∀ option ∈ options, ',' ∉ option.toList) ∧
        (",".intercalate options).toList = field := by
  have pieces : (splitOnP (· == ',') field).map String.ofList = options ↔
      splitOnP (· == ',') field = options.map String.toList := by
    constructor
    · rintro rfl
      simp [Function.comp_def]
    · intro h
      simp [h, Function.comp_def]
  have joined : (",".intercalate options).toList = [','].intercalate (options.map String.toList) :=
    String.toList_intercalate
  rw [pieces, splitOnP_eq_iff, joined, and_assoc]
  simp

/-- A line is read exactly if it tells a mount, and as that mount. -/
theorem parseLine_eq_ok_iff : parseLine line = .ok point ↔ Tells line point := by
  constructor
  · intro read
    rw [parseLine] at read
    split at read
    case h_2 => cases read
    case h_1 device path kind options freq pass six =>
      obtain ⟨f, hf, read⟩ := bind_eq_ok.mp read
      obtain ⟨p, hp, read⟩ := bind_eq_ok.mp read
      obtain rfl := Except.ok.inj read
      obtain ⟨cut, joined⟩ := map_splitOnP_eq_iff.mp rfl
      refine ⟨⟨path, freq, pass, ?_, rfl, parseInteger_eq_ok_iff.mp hf,
        parseInteger_eq_ok_iff.mp hp⟩, cut⟩
      rw [optionText, joined, String.toList_ofList, String.toList_ofList, ← fields_eq_iff, six]
  · rintro ⟨⟨path, freq, pass, words, unescaped, hf, hp⟩, cut⟩
    have options := map_splitOnP_eq_iff.mpr ⟨cut, rfl⟩
    rw [parseLine, words.fields_eq]
    refine bind_eq_ok.mpr ⟨point.freq, parseInteger_eq_ok_iff.mpr hf, ?_⟩
    refine bind_eq_ok.mpr ⟨point.pass, parseInteger_eq_ok_iff.mpr hp, ?_⟩
    rw [optionText, options, ← unescaped, String.ofList_toList, String.ofList_toList]

/-- Every entry tells some mount, whatever its first four words are. -/
theorem isEntry_iff : IsEntry line ↔ ∃ point, Tells line point := by
  constructor
  · rintro ⟨device, path, kind, options, freq, pass, words, ⟨f, hf⟩, p, hp⟩
    obtain ⟨cut, joined⟩ := map_splitOnP_eq_iff.mp (Eq.refl ((splitOnP (· == ',') options).map _))
    refine ⟨⟨⟨String.ofList device⟩, ⟨String.ofList (Octal.decode path)⟩, String.ofList kind,
      (splitOnP (· == ',') options).map String.ofList, f, p⟩, ⟨path, freq, pass, ?_, rfl, hf, hp⟩,
      cut⟩
    simpa only [optionText, joined, String.toList_ofList] using words
  · rintro ⟨point, ⟨path, freq, pass, words, -, hf, hp⟩, -⟩
    exact ⟨_, path, _, _, freq, pass, words, ⟨_, hf⟩, _, hp⟩

/-! ### All lines -/

theorem parseLines_eq_ok_iff :
    parseLines ls = .ok table ↔ List.Forall₂ Tells (shownLines ls) table := by
  induction ls generalizing table with
  | nil => simp [parseLines, shownLines, eq_comm]
  | cons line ls ih =>
    rw [parseLines, shownLines, List.filter_cons, ← shownLines]
    cases line.all isBlank with
    | true => simpa using ih
    | false =>
      simp only [Bool.false_eq_true, ↓reduceIte, Bool.not_false, bind_eq_ok, ih,
        parseLine_eq_ok_iff, ok_eq_ok, List.forall₂_cons_left_iff, exists_and_left]

theorem parseTable_eq_ok_iff {bytes : Bytes} :
    parseTable bytes = .ok table ↔ TellsTable bytes table := by
  rw [parseTable, TellsTable]
  constructor
  · intro read
    split at read
    case h_2 => cases read
    case h_1 text decoded =>
      exact ⟨text, lines text, Utf8.decode?_eq_some_iff.mp decoded, lines_eq_iff.mp rfl,
        parseLines_eq_ok_iff.mp read⟩
  · rintro ⟨text, ls, rfl, hl, told⟩
    rw [Utf8.decode?_encode]
    exact parseLines_eq_ok_iff.mpr (hl.lines_eq.symm ▸ told)

/-- Bytes are read exactly if they are a table, and then as the mounts that its lines tell, one for
each line that is not blank; of anything else there is only an error. -/
theorem parseTable_all_or_nothing (bytes : Bytes) :
    ((∃ table, parseTable bytes = .ok table) ↔ IsTable bytes) ∧
    (∀ table, parseTable bytes = .ok table ↔ TellsTable bytes table) ∧
    ((∃ e, parseTable bytes = .error e) ↔ ¬IsTable bytes) := by
  have read : (∃ table, parseTable bytes = .ok table) ↔ IsTable bytes := by
    simp only [parseTable_eq_ok_iff, IsTable, isEntry_iff, ← exists_forall₂_iff]
    constructor
    · rintro ⟨table, text, ls, bytes, hl, told⟩
      exact ⟨text, ls, bytes, hl, table, told⟩
    · rintro ⟨text, ls, bytes, hl, table, told⟩
      exact ⟨table, text, ls, bytes, hl, told⟩
  exact ⟨read, fun _ => parseTable_eq_ok_iff, by rw [exists_error_iff, read]⟩

end BlockVolume.Mount
