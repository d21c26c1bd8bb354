import BlockVolume.Mount.TableText
import BlockVolume.Proofs.Text.Cutting
import BlockVolume.Proofs.Text.Decimal
import BlockVolume.Proofs.Text.Octal
/-!
Mount tables read back from their text.

A line is cut into fields before its escapes are read, and it is cut at every blank, while escapes
stand only for some blanks. So a table is read back exactly if its paths hold no other blanks, and
each mount has an option to show.
-/

namespace BlockVolume.Mount

open BlockVolume.Text

/-- A text that can be a field: it is not empty and holds no blanks. -/
structure IsWord (text : String) : Prop where
  filled : text.toList ≠ []
  solid : ∀ c ∈ text.toList, isBlank c = false

/-- A mount that can be written as a line. -/
structure MountPoint.Writable (point : MountPoint) : Prop where
  device : IsWord point.device.text
  path : point.path.text ≠ ""
  kind : IsWord point.kind
  options : ∀ option ∈ point.options, IsWord option ∧ ',' ∉ option.toList
  freq : Decimal.minValue ≤ point.freq ∧ point.freq ≤ Decimal.maxValue
  pass : Decimal.minValue ≤ point.pass ∧ point.pass ≤ Decimal.maxValue

instance (text : String) : Decidable (IsWord text) :=
  -- by the characters of the text, not by all there are
  decidable_of_iff (text.toList ≠ [] ∧ text.toList.all (!isBlank ·) = true)
    ⟨fun ⟨filled, solid⟩ => ⟨filled, by simpa using solid⟩,
      fun ⟨filled, solid⟩ => ⟨filled, by simpa using solid⟩⟩

instance (point : MountPoint) : Decidable point.Writable :=
  decidable_of_iff (IsWord point.device.text ∧ point.path.text ≠ "" ∧ IsWord point.kind ∧
      (∀ option ∈ point.options, IsWord option ∧ ',' ∉ option.toList) ∧
      (Decimal.minValue ≤ point.freq ∧ point.freq ≤ Decimal.maxValue) ∧
      (Decimal.minValue ≤ point.pass ∧ point.pass ≤ Decimal.maxValue))
    ⟨fun ⟨device, path, kind, options, freq, pass⟩ => ⟨device, path, kind, options, freq, pass⟩,
      fun ⟨device, path, kind, options, freq, pass⟩ => ⟨device, path, kind, options, freq, pass⟩⟩

variable {point : MountPoint} {table : MountTable}

/-! ### Fields of a line -/

/-- The field of the options. -/
def optionText (point : MountPoint) : List Char := (",".intercalate point.options).toList

theorem optionText_eq (point : MountPoint) :
    optionText point = [','].intercalate (point.options.map String.toList) :=
  String.toList_intercalate

theorem isBlank_optionText (writable : point.Writable) :
    ∀ c ∈ optionText point, isBlank c = false := by
  intro c hc
  rw [optionText_eq] at hc
  rcases of_mem_intercalate hc with rfl | ⟨piece, hp, hc⟩
  · decide
  · obtain ⟨option, ho, rfl⟩ := List.mem_map.mp hp
    exact (writable.options option ho).1.solid c hc

/-- Options are read back, if there are any. -/
theorem splitOnP_optionText (writable : point.Writable) (some : point.options ≠ []) :
    (splitOnP (· == ',') (optionText point)).map String.ofList = point.options := by
  have cut : splitOnP (· == ',') (optionText point) = point.options.map String.toList := by
    rw [optionText_eq]
    refine splitOnP_intercalate (by decide) (by simpa using some) fun piece hp c hc => ?_
    obtain ⟨option, ho, rfl⟩ := List.mem_map.mp hp
    exact beq_false_of_ne fun heq => (writable.options option ho).2 (heq ▸ hc)
  rw [cut, List.map_map]
  simp [Function.comp_def]

theorem optionText_ne_nil (writable : point.Writable) (some : point.options ≠ []) :
    optionText point ≠ [] := by
  intro none
  have read := splitOnP_optionText writable some
  rw [none] at read
  -- the only option would be empty
  have word := (writable.options (String.ofList []) (read ▸ List.mem_cons_self)).1
  exact word.filled rfl

theorem isBlank_toString (value : Int) : ∀ c ∈ (toString value).toList, isBlank c = false := by
  intro c hc
  rcases Decimal.mem_toString hc with rfl | digit
  · decide
  · have range : 48 ≤ c.toNat ∧ c.toNat ≤ 57 := by
      simpa [Char.isDigit, UInt32.le_iff_toNat_le] using digit
    simp only [isBlank, Bool.or_eq_false_iff, Bool.and_eq_false_iff, beq_eq_false_iff_ne,
      decide_eq_false_iff_not]
    omega

/-- The fields of a line: those of the path and of the options may be any number. -/
theorem fields_renderLine (writable : point.Writable) :
    fields (renderLine point) =
      point.device.text.toList :: (fields (Octal.encode point.path.text.toList) ++
        point.kind.toList :: (fields (optionText point) ++
          [(toString point.freq).toList, (toString point.pass).toList])) := by
  have device := fields_eq_singleton writable.device.filled writable.device.solid
  have kind := fields_eq_singleton writable.kind.filled writable.kind.solid
  have integer (value : Int) : fields (toString value).toList = [(toString value).toList] :=
    fields_eq_singleton (Decimal.toString_ne_nil value) (isBlank_toString value)
  have blank : isBlank ' ' = true := by decide
  rw [renderLine, fields_append blank, fields_append blank, fields_append blank,
    fields_append blank, fields_append blank, device, kind, integer, integer]
  simp [optionText]

/-! ### One line -/

/-- A line whose fields are those of a mount is read as that mount. -/
theorem parseLine_of_fields (writable : point.Writable) (some : point.options ≠ [])
    {line : List Char} (h : fields line = [point.device.text.toList,
      Octal.encode point.path.text.toList, point.kind.toList, optionText point,
      (toString point.freq).toList, (toString point.pass).toList]) :
    parseLine line = .ok point := by
  have freq := Decimal.read_toString writable.freq.1 writable.freq.2
  have pass := Decimal.read_toString writable.pass.1 writable.pass.2
  simp only [parseLine, h, parseInteger, freq, pass, Octal.decode_encode,
    splitOnP_optionText writable some, String.ofList_toList]
  rfl

/-- Only lines of six fields are read. -/
theorem fields_of_parseLine {line : List Char} (read : parseLine line = .ok point) :
    ∃ device path kind options freq pass, fields line = [device, path, kind, options, freq, pass] ∧
      point.path.text.toList = Octal.decode path ∧
        point.options = (splitOnP (· == ',') options).map String.ofList := by
  rw [parseLine] at read
  split at read
  case h_2 => cases read
  case h_1 device path kind options freq pass six =>
    refine ⟨device, path, kind, options, freq, pass, six, ?_⟩
    cases hf : parseInteger "freq" freq with
    | error e =>
      rw [hf] at read
      cases read
    | ok freq =>
      cases hp : parseInteger "pass" pass with
      | error e =>
        rw [hf, hp] at read
        cases read
      | ok pass =>
        rw [hf, hp] at read
        obtain rfl := Except.ok.inj read
        exact ⟨String.toList_ofList, rfl⟩

/-- The path is one field exactly if its blanks are all escaped. -/
theorem fields_encode_of_closed {path : List Char} (some : path ≠ [])
    (closed : ∀ c ∈ path, isBlank c = true → Octal.isEscaped c = true) :
    fields (Octal.encode path) = [Octal.encode path] := by
  have kept : path.filter (fun c => !Octal.isOpenBlank c) = path :=
    List.filter_eq_self.mpr fun c hc => by
      cases hb : isBlank c with
      | false => simp [Octal.isOpenBlank, hb]
      | true => simp [Octal.isOpenBlank, closed c hc hb]
  have solid := Octal.filter_isBlank_encode path
  rw [kept] at solid
  refine fields_eq_singleton (fun none => some ?_) fun c hc => ?_
  · rw [← Octal.decode_encode path, none]
    simp [Octal.decode, Octal.decodeBytes, Utf8.decodeLossy]
  · simpa using List.filter_eq_self.mp solid c hc

/-- A path that is read from the only field of its written form has no open blanks. -/
theorem closed_of_fields_encode {path field : List Char}
    (one : fields (Octal.encode path) = [field]) (read : path = Octal.decode field) :
    ∀ c ∈ path, isBlank c = true → Octal.isEscaped c = true := by
  have whole : field = Octal.encode (path.filter fun c => !Octal.isOpenBlank c) := by
    rw [← Octal.filter_isBlank_encode, ← flatten_fields, one, List.flatten_singleton]
  rw [whole, Octal.decode_encode] at read
  intro c hc blank
  simpa [Octal.isOpenBlank, blank] using List.filter_eq_self.mp read.symm c hc

/-- A written line is read back exactly if the mount has an option, and its path no blanks but those
that are escaped. -/
theorem parseLine_renderLine_iff (writable : point.Writable) :
    parseLine (renderLine point) = .ok point ↔ point.options ≠ [] ∧
      ∀ c ∈ point.path.text.toList, isBlank c = true → Octal.isEscaped c = true := by
  have cut := fields_renderLine writable
  have word (some : point.options ≠ []) : fields (optionText point) = [optionText point] :=
    fields_eq_singleton (optionText_ne_nil writable some) (isBlank_optionText writable)
  constructor
  · intro read
    obtain ⟨device, path, kind, options, freq, pass, six, hpath, hoptions⟩ :=
      fields_of_parseLine read
    have some : point.options ≠ [] := by
      rw [hoptions]
      simpa using splitOnP_ne_nil _ options
    refine ⟨some, ?_⟩
    rw [cut, word some] at six
    -- six fields leave one for the path
    have lengths := congrArg List.length six
    simp only [List.length_cons, List.length_append, List.length_nil] at lengths
    obtain ⟨field, one⟩ := List.length_eq_one_iff.mp
      (show (fields (Octal.encode point.path.text.toList)).length = 1 by omega)
    rw [one] at six
    obtain rfl : field = path := by simpa using (List.cons.inj (List.cons.inj six).2).1
    exact closed_of_fields_encode one hpath
  · rintro ⟨some, closed⟩
    refine parseLine_of_fields writable some ?_
    have path := fields_encode_of_closed (by simpa using writable.path) closed
    rw [cut, path, word some]
    rfl

/-! ### All lines -/

theorem isBlank_renderLine (writable : point.Writable) :
    (renderLine point).all isBlank = false := by
  obtain ⟨c, cs, heq⟩ := List.exists_cons_of_ne_nil writable.device.filled
  have solid := writable.device.solid c (heq ▸ List.mem_cons_self)
  exact List.all_eq_false.mpr ⟨c, by simp [renderLine, heq], by simp [solid]⟩

theorem lineFeed_not_mem_renderLine (writable : point.Writable) : '\n' ∉ renderLine point := by
  have solid {cs : List Char} (h : ∀ c ∈ cs, isBlank c = false) : '\n' ∉ cs := fun hc =>
    absurd (h _ hc) (by decide)
  have path : '\n' ∉ Octal.encode point.path.text.toList := fun hc =>
    absurd (Octal.isEscaped_of_mem_encode hc (by decide)) (by decide)
  simp only [renderLine, List.mem_append, List.mem_cons, not_or]
  exact ⟨⟨⟨⟨⟨solid writable.device.solid, by decide, path⟩, by decide, solid writable.kind.solid⟩,
    by decide, solid (isBlank_optionText writable)⟩, by decide, solid (isBlank_toString point.freq)⟩,
    by decide, solid (isBlank_toString point.pass)⟩

/-- A line ends in a digit. -/
theorem dropReturn_renderLine (point : MountPoint) :
    dropReturn (renderLine point) = renderLine point := by
  obtain ⟨init, last, heq⟩ := List.eq_nil_or_concat'
    (toString point.pass).toList |>.resolve_left (Decimal.toString_ne_nil point.pass)
  have solid := isBlank_toString point.pass last (heq ▸ List.mem_concat_self)
  refine dropReturn_of_ne fun ends => ?_
  rw [renderLine, heq, ← List.cons_append, ← List.append_assoc, List.getLast?_concat] at ends
  obtain rfl := Option.some.inj ends
  exact absurd solid (by decide)

theorem lines_renderTable (writable : ∀ point ∈ table, point.Writable) :
    lines (table.flatMap fun point => renderLine point ++ ['\n']) = table.map renderLine := by
  rw [lines_flatMap fun point hp => lineFeed_not_mem_renderLine (writable point hp)]
  exact List.map_congr_left fun point _ => dropReturn_renderLine point

theorem parseLines_renderLine_iff (writable : ∀ point ∈ table, point.Writable) :
    parseLines (table.map renderLine) = .ok table ↔
      ∀ point ∈ table, parseLine (renderLine point) = .ok point := by
  induction table with
  | nil => simp [parseLines]
  | cons point table ih =>
    have later := ih fun other ho => writable other (List.mem_cons_of_mem point ho)
    have shown := isBlank_renderLine (writable point List.mem_cons_self)
    rw [List.map_cons, parseLines, shown, if_neg (by simp), List.forall_mem_cons, ← later]
    constructor
    · intro read
      cases hf : parseLine (renderLine point) with
      | error e =>
        rw [hf] at read
        cases read
      | ok first =>
        cases ho : parseLines (table.map renderLine) with
        | error e =>
          rw [hf, ho] at read
          cases read
        | ok others =>
          rw [hf, ho] at read
          obtain ⟨rfl, rfl⟩ := List.cons.inj (Except.ok.inj read)
          exact ⟨rfl, rfl⟩
    · rintro ⟨first, others⟩
      rw [first, others]
      rfl

/-- A table that can be written is read back exactly if each mount has an option, and no path has a
blank but those that are escaped. -/
theorem parseTable_renderTable_iff (writable : ∀ point ∈ table, point.Writable) :
    parseTable (renderTable table) = .ok table ↔ ∀ point ∈ table, point.options ≠ [] ∧
      ∀ c ∈ point.path.text.toList, isBlank c = true → Octal.isEscaped c = true := by
  rw [parseTable, renderTable, Utf8.decode?_encode]
  dsimp only
  rw [lines_renderTable writable, parseLines_renderLine_iff writable]
  exact forall₂_congr fun point hp => parseLine_renderLine_iff (writable point hp)

/-- Mounts with a path that looks like an escape and holds all that is escaped, and with the
greatest and least integers. -/
def spacedTable : MountTable :=
  [⟨⟨"/dev/vdb"⟩, ⟨"/mnt/my disk\\040\t\né"⟩, "ext4", ["rw", "data=ordered"], 0, -1⟩,
   ⟨⟨"proc"⟩, ⟨"\\"⟩, "proc", ["ro"], 9223372036854775807, -9223372036854775808⟩]

theorem spacedTable_read_back : (∀ point ∈ spacedTable, point.Writable) ∧
    parseTable (renderTable spacedTable) = .ok spacedTable := by
  have writable : ∀ point ∈ spacedTable, point.Writable := by decide +kernel
  have closed : ∀ point ∈ spacedTable, point.options ≠ [] ∧
      point.path.text.toList.all (!Octal.isOpenBlank ·) = true := by decide +kernel
  refine ⟨writable, (parseTable_renderTable_iff writable).mpr fun point hp => ?_⟩
  refine ⟨(closed point hp).1, fun c hc blank => ?_⟩
  simpa [Octal.isOpenBlank, blank] using List.all_eq_true.mp (closed point hp).2 c hc

/-- A mount with a no-break space in its path. -/
def noBreakTable : MountTable := [⟨⟨"/dev/vdb"⟩, ⟨"/mnt/a\u00a0b"⟩, "ext4", ["rw"], 0, 0⟩]

theorem noBreakTable_not_read : (∀ point ∈ noBreakTable, point.Writable) ∧
    parseTable (renderTable noBreakTable) =
      .error (.told "wrong number of fields (expected 6, got 7)") := by
  refine ⟨by decide +kernel, ?_⟩
  rw [parseTable, renderTable, Utf8.decode?_encode]
  decide +kernel

end BlockVolume.Mount
