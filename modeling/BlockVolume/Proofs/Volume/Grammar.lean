import BlockVolume.Proofs.Volume.RoundTrip
/-!
What options are read, and what is asked for them.

The options that need no metadata are checked first: the disk, the file system, the category. Where
they are in order, node, zone and region are taken in turn from the options, or else from metadata.
`Checked` and `Reading` say so rule by rule, without the program; the program keeps to them, and to
the eight keys that it knows.
-/

namespace BlockVolume.Volume

open BlockVolume.Program

variable {options other : Options} {key resource value defaultRegion : String}
  {es : List (Exchange Ask.Answer)}

/-! ### Single options -/

/-- The option has a value that is not blank, and this is the value without the blanks around it. -/
def Gives (options : Options) (key value : String) : Prop :=
  value ≠ "" ∧ ∃ raw, options.lookup key = some raw ∧ Text.trim raw = value

/-- The option is absent or blank. -/
def Lacks (options : Options) (key : String) : Prop :=
  ∀ raw, options.lookup key = some raw → Text.trim raw = ""

theorem nonBlank?_eq_some : options.nonBlank? key = some value ↔ Gives options key value := by
  rw [Options.nonBlank?]
  split
  case h_2 absent => simp [Gives, absent]
  case h_1 raw given =>
    have gives : Gives options key value ↔ value ≠ "" ∧ Text.trim raw = value := by
      simp [Gives, given]
    rw [gives]
    by_cases blank : Text.trim raw = ""
    · rw [if_pos (by simpa using blank), blank]
      constructor
      · rintro ⟨⟩
      · rintro ⟨some, rfl⟩
        exact absurd rfl some
    · rw [if_neg (by simpa using blank), Option.some.injEq]
      constructor
      · rintro rfl
        exact ⟨blank, rfl⟩
      · exact And.right

theorem nonBlank?_eq_none : options.nonBlank? key = none ↔ Lacks options key := by
  rw [Options.nonBlank?]
  split
  case h_2 absent => simp [Lacks, absent]
  case h_1 raw given => simp [Lacks, given]

/-- An option that names a value names the one it stands for; one that is absent stands for the
standard value. -/
inductive Named {α : Type} (name : α → String) (standard : α) (options : Options) (key : String) :
    α → Prop where
  | absent (none : options.lookup key = none) : Named name standard options key standard
  | present {value : α} (given : options.lookup key = some (name value)) :
      Named name standard options key value

/-- Where a value comes from, with what was asked for it and its answer. -/
inductive Sourced (options : Options) (key resource : String) :
    List (Exchange Ask.Answer) → Option String → Prop where
  | given {value : String} (gives : Gives options key value) :
      Sourced options key resource [] (some value)
  | lookedUp (lacks : Lacks options key) (reply : Option String) :
      Sourced options key resource [⟨.cloud (.metadata resource), reply⟩] reply

theorem history_resolve_iff {found : Option String} :
    History (resolve options key resource) es found ↔ Sourced options key resource es found := by
  constructor
  · intro h
    rcases history_resolve h with ⟨value, given, rfl, rfl⟩ | ⟨blank, rfl⟩
    · exact .given (nonBlank?_eq_some.mp given)
    · exact .lookedUp (nonBlank?_eq_none.mp blank) found
  · rintro (gives | ⟨lacks⟩)
    · rw [resolve, nonBlank?_eq_some.mpr gives]
      exact history_pure.mpr ⟨rfl, rfl⟩
    · rw [resolve, nonBlank?_eq_none.mpr lacks]
      exact history_query.mpr rfl

/-! ### Checks without metadata -/

/-- What the options come to that need no metadata. -/
inductive Checked (options : Options) :
    Except ValidationError (String × FsType × Category) → Prop where
  | missing (lacks : Lacks options diskKey) : Checked options (.error (.missing diskKey))
  | badFsType {disk text : String} (gives : Gives options diskKey disk)
      (given : options.lookup fsTypeKey = some text) (strange : text ∉ ["ext3", "ext4"]) :
      Checked options (.error (.fsType text))
  | badCategory {disk text : String} {fsType : FsType} (gives : Gives options diskKey disk)
      (fs : Named FsType.name .ext4 options fsTypeKey fsType)
      (given : options.lookup categoryKey = some text)
      (strange : text ∉ ["available", "cloud", "cloud_efficiency", "cloud_ssd"]) :
      Checked options (.error (.category text))
  | valid {disk : String} {fsType : FsType} {category : Category}
      (gives : Gives options diskKey disk)
      (fs : Named FsType.name .ext4 options fsTypeKey fsType)
      (kind : Named Category.name .available options categoryKey category) :
      Checked options (.ok (disk, fsType, category))

theorem FsType.parse_cases (text : String) :
    (∃ fsType : FsType, text = fsType.name ∧ FsType.parse text = .ok fsType) ∨
      text ∉ ["ext3", "ext4"] ∧ FsType.parse text = .error (.fsType text) := by
  rw [FsType.parse.eq_def]
  split
  case h_1 => exact .inl ⟨.ext3, rfl, rfl⟩
  case h_2 => exact .inl ⟨.ext4, rfl, rfl⟩
  case h_3 not3 not4 => exact .inr ⟨by simpa using ⟨not3, not4⟩, rfl⟩

theorem Category.parse_cases (text : String) :
    (∃ category : Category, text = category.name ∧ Category.parse text = .ok category) ∨
      text ∉ ["available", "cloud", "cloud_efficiency", "cloud_ssd"] ∧
        Category.parse text = .error (.category text) := by
  rw [Category.parse.eq_def]
  split
  case h_1 => exact .inl ⟨.available, rfl, rfl⟩
  case h_2 => exact .inl ⟨.cloud, rfl, rfl⟩
  case h_3 => exact .inl ⟨.cloudEfficiency, rfl, rfl⟩
  case h_4 => exact .inl ⟨.cloudSsd, rfl, rfl⟩
  case h_5 not1 not2 not3 not4 => exact .inr ⟨by simpa using ⟨not1, not2, not3, not4⟩, rfl⟩

theorem FsType.parse_strange {text : String} (strange : text ∉ ["ext3", "ext4"]) :
    FsType.parse text = .error (.fsType text) := by
  rcases FsType.parse_cases text with ⟨fsType, rfl, -⟩ | ⟨-, read⟩
  · cases fsType <;> simp [FsType.name] at strange
  · exact read

theorem Category.parse_strange {text : String}
    (strange : text ∉ ["available", "cloud", "cloud_efficiency", "cloud_ssd"]) :
    Category.parse text = .error (.category text) := by
  rcases Category.parse_cases text with ⟨category, rfl, -⟩ | ⟨-, read⟩
  · cases category <;> simp [Category.name] at strange
  · exact read

section Choice

variable {α : Type} {name : α → String} {standard chosen : α}
  {parse : String → Except ValidationError α}

/-- An option that chooses a value by its name. -/
def choice (parse : String → Except ValidationError α) (standard : α) (options : Options)
    (key : String) : Except ValidationError α :=
  match options.lookup key with
  | some text => parse text
  | none => .ok standard

theorem choice_of_named (reads : ∀ value, parse (name value) = .ok value)
    (h : Named name standard options key chosen) : choice parse standard options key = .ok chosen := by
  cases h with
  | absent none => rw [choice, none]
  | present given =>
    rw [choice, given]
    exact reads chosen

theorem choice_of_given {text : String} (given : options.lookup key = some text) :
    choice parse standard options key = parse text := by
  rw [choice, given]

/-- An option names a value, or holds some text that is not read. -/
theorem choice_cases {Strange : String → Prop} {e : String → ValidationError}
    (parses : ∀ text, (∃ value, text = name value ∧ parse text = .ok value) ∨
      Strange text ∧ parse text = .error (e text)) (options : Options) (key : String) :
    (∃ value, Named name standard options key value ∧
      choice parse standard options key = .ok value) ∨
    ∃ text, options.lookup key = some text ∧ Strange text ∧
      choice parse standard options key = .error (e text) := by
  cases given : options.lookup key with
  | none => exact .inl ⟨standard, .absent given, by rw [choice, given]⟩
  | some text =>
    rw [choice_of_given given]
    rcases parses text with ⟨value, rfl, read⟩ | ⟨strange, read⟩
    · exact .inl ⟨value, .present given, read⟩
    · exact .inr ⟨text, rfl, strange, read⟩

end Choice

theorem checkOptions_eq (options : Options) :
    checkOptions options = (do
      let disk ← (options.nonBlank? diskKey).elim (.error (.missing diskKey)) .ok
      let fsType ← choice FsType.parse .ext4 options fsTypeKey
      let category ← choice Category.parse .available options categoryKey
      return (disk, fsType, category)) := by
  rw [checkOptions, choice, choice]
  cases options.nonBlank? diskKey with
  | none => rfl
  | some disk =>
    cases options.lookup fsTypeKey <;> cases options.lookup categoryKey <;> rfl

theorem checked_checkOptions (options : Options) : Checked options (checkOptions options) := by
  rw [checkOptions_eq]
  cases found : options.nonBlank? diskKey with
  | none => exact .missing (nonBlank?_eq_none.mp found)
  | some disk =>
    have gives : Gives options diskKey disk := nonBlank?_eq_some.mp found
    rcases choice_cases FsType.parse_cases options fsTypeKey with
      ⟨fsType, fs, read⟩ | ⟨text, given, strange, read⟩
    case inr =>
      rw [read]
      exact .badFsType gives given strange
    rcases choice_cases Category.parse_cases options categoryKey with
      ⟨category, kind, chosen⟩ | ⟨text, given, strange, chosen⟩
    case inr =>
      rw [read, chosen]
      exact .badCategory gives fs given strange
    rw [read, chosen]
    exact .valid gives fs kind

/-- The checks come to what the rules say. -/
theorem checkOptions_iff {result : Except ValidationError (String × FsType × Category)} :
    checkOptions options = result ↔ Checked options result := by
  constructor
  · rintro rfl
    exact checked_checkOptions options
  · intro h
    rw [checkOptions_eq]
    cases h with
    | missing lacks =>
      rw [nonBlank?_eq_none.mpr lacks]
      rfl
    | badFsType gives given strange =>
      rw [nonBlank?_eq_some.mpr gives, choice_of_given given, FsType.parse_strange strange]
      rfl
    | badCategory gives fs given strange =>
      rw [nonBlank?_eq_some.mpr gives, choice_of_named parse_name_fsType fs, choice_of_given given,
        Category.parse_strange strange]
      rfl
    | valid gives fs kind =>
      rw [nonBlank?_eq_some.mpr gives, choice_of_named parse_name_fsType fs,
        choice_of_named parse_name_category kind]
      rfl

/-! ### Reading -/

/-- The region of a request: the one that was found, or else a default that is not empty. -/
def Placed (found : Option String) (defaultRegion region : String) : Prop :=
  found = some region ∨ found = none ∧ defaultRegion ≠ "" ∧ region = defaultRegion

/-- What options are read as, with what is asked for it. Nothing is asked before the checks, and
nothing after the first look-up that leaves the request without a part. -/
inductive Reading (options : Options) (defaultRegion : String) :
    List (Exchange Ask.Answer) → Except ValidationError Request → Prop where
  | invalid {e : ValidationError} (checked : Checked options (.error e)) :
      Reading options defaultRegion [] (.error e)
  | noNode {disk : String} {fsType : FsType} {category : Category}
      {forNode : List (Exchange Ask.Answer)}
      (checked : Checked options (.ok (disk, fsType, category)))
      (hn : Sourced options nodeKey nodeResource forNode none) :
      Reading options defaultRegion forNode (.error (.unresolved nodeKey))
  | noZone {disk node : String} {fsType : FsType} {category : Category}
      {forNode forZone : List (Exchange Ask.Answer)}
      (checked : Checked options (.ok (disk, fsType, category)))
      (hn : Sourced options nodeKey nodeResource forNode (some node))
      (hz : Sourced options zoneKey zoneResource forZone none) :
      Reading options defaultRegion (forNode ++ forZone) (.error (.unresolved zoneKey))
  | noRegion {disk node zone : String} {fsType : FsType} {category : Category}
      {forNode forZone forRegion : List (Exchange Ask.Answer)}
      (checked : Checked options (.ok (disk, fsType, category)))
      (hn : Sourced options nodeKey nodeResource forNode (some node))
      (hz : Sourced options zoneKey zoneResource forZone (some zone))
      (hr : Sourced options regionKey regionResource forRegion none) (bare : defaultRegion = "") :
      Reading options defaultRegion (forNode ++ (forZone ++ forRegion))
        (.error (.unresolved regionKey))
  | read {disk node zone region : String} {fsType : FsType} {category : Category}
      {forNode forZone forRegion : List (Exchange Ask.Answer)} {found : Option String}
      (checked : Checked options (.ok (disk, fsType, category)))
      (hn : Sourced options nodeKey nodeResource forNode (some node))
      (hz : Sourced options zoneKey zoneResource forZone (some zone))
      (hr : Sourced options regionKey regionResource forRegion found)
      (placed : Placed found defaultRegion region) :
      Reading options defaultRegion (forNode ++ (forZone ++ forRegion))
        (.ok ⟨disk, node, zone, region, fsType, category, isSet (options.lookup readOnlyKey),
          isSet (options.lookup encryptedKey)⟩)

theorem history_check_bind {α ε β : Type} {checked : Except ε α} {f : α → ExceptT ε NodeProgram β}
    {result : Except ε β} :
    History (ExceptT.run (liftM checked >>= f)) es result ↔
      (∃ e, checked = .error e ∧ es = [] ∧ result = .error e) ∨
        ∃ value, checked = .ok value ∧ History (f value).run es result := by
  rw [history_step_bind]
  constructor
  · rintro (⟨e, hc, rfl⟩ | ⟨before, value, after, rfl, hc, hf⟩)
    · obtain ⟨rfl, failed⟩ := history_step_ofExcept.mp hc
      exact .inl ⟨e, failed.symm, rfl, rfl⟩
    · obtain ⟨rfl, found⟩ := history_step_ofExcept.mp hc
      exact .inr ⟨value, found.symm, hf⟩
  · rintro (⟨e, rfl, rfl, rfl⟩ | ⟨value, rfl, hf⟩)
    · exact .inl ⟨e, history_step_ofExcept.mpr ⟨rfl, rfl⟩, rfl⟩
    · exact .inr ⟨[], value, es, rfl, history_step_ofExcept.mpr ⟨rfl, rfl⟩, hf⟩

/-- A part that must be known is known from its source, or nothing more is asked. -/
theorem history_resolved_bind {α : Type} {f : String → ParseStep α}
    {result : Except ValidationError α} :
    History (ExceptT.run (liftM (resolve options key resource) >>= fun found =>
        liftM (resolved key found) >>= f)) es result ↔
      (Sourced options key resource es none ∧ result = .error (.unresolved key)) ∨
        ∃ before value after, es = before ++ after ∧
          Sourced options key resource before (some value) ∧ History (f value).run after result := by
  simp only [history_step_lift_bind, history_resolve_iff, history_check_bind]
  constructor
  · rintro ⟨before, found, after, rfl, hs, ⟨e, failed, rfl, rfl⟩ | ⟨value, known, hf⟩⟩
    · cases found with
      | some value => cases failed
      | none =>
        obtain rfl := Except.error.inj failed
        exact .inl ⟨by simpa using hs, rfl⟩
    · obtain rfl := resolved_eq_ok.mp known
      exact .inr ⟨before, value, after, rfl, hs, hf⟩
  · rintro (⟨hs, rfl⟩ | ⟨before, value, after, rfl, hs, hf⟩)
    · exact ⟨es, none, [], by simp, hs, .inl ⟨_, rfl, rfl, rfl⟩⟩
    · exact ⟨before, some value, after, rfl, hs, .inr ⟨value, rfl, hf⟩⟩

theorem placed_iff {found : Option String} {region : String} :
    resolved regionKey (found.or (if defaultRegion.isEmpty then none else some defaultRegion)) =
      .ok region ↔ Placed found defaultRegion region := by
  rw [resolved_eq_ok, Placed]
  cases found with
  | some value => simp
  | none =>
    by_cases bare : defaultRegion = ""
    · simp [bare]
    · simpa [bare] using eq_comm

theorem not_placed_iff {found : Option String} {e : ValidationError} :
    resolved regionKey (found.or (if defaultRegion.isEmpty then none else some defaultRegion)) =
      .error e ↔ found = none ∧ defaultRegion = "" ∧ e = .unresolved regionKey := by
  cases found with
  | some value => simp [resolved]
  | none =>
    by_cases bare : defaultRegion = ""
    · simpa [bare, resolved] using eq_comm
    · simp [bare, resolved]

/-- The histories of reading options are what the rules say. -/
theorem history_parse_iff {result : Except ValidationError Request} :
    History (Request.parse options defaultRegion).run es result ↔
      Reading options defaultRegion es result := by
  rw [Request.parse, history_check_bind]
  constructor
  · rintro (⟨e, checked, rfl, rfl⟩ | ⟨⟨disk, fsType, category⟩, checked, h⟩)
    · exact .invalid (checkOptions_iff.mp checked)
    have checked := checkOptions_iff.mp checked
    rcases history_resolved_bind.mp h with ⟨hn, rfl⟩ | ⟨forNode, node, rest, rfl, hn, h⟩
    · exact .noNode checked hn
    rcases history_resolved_bind.mp h with ⟨hz, rfl⟩ | ⟨forZone, zone, rest, rfl, hz, h⟩
    · exact .noZone checked hn hz
    obtain ⟨forRegion, found, rest, rfl, hr, h⟩ := history_step_lift_bind.mp h
    have hr := history_resolve_iff.mp hr
    rcases history_check_bind.mp h with ⟨e, failed, rfl, rfl⟩ | ⟨region, placed, h⟩
    · obtain ⟨rfl, bare, rfl⟩ := not_placed_iff.mp failed
      simpa using Reading.noRegion checked hn hz hr bare
    · obtain ⟨rfl, rfl⟩ := history_step_pure.mp h
      simpa using Reading.read checked hn hz hr (placed_iff.mp placed)
  · intro h
    cases h with
    | invalid checked => exact .inl ⟨_, checkOptions_iff.mpr checked, rfl, rfl⟩
    | noNode checked hn =>
      refine .inr ⟨_, checkOptions_iff.mpr checked, history_resolved_bind.mpr ?_⟩
      exact .inl ⟨hn, rfl⟩
    | noZone checked hn hz =>
      refine .inr ⟨_, checkOptions_iff.mpr checked, history_resolved_bind.mpr ?_⟩
      refine .inr ⟨_, _, _, rfl, hn, history_resolved_bind.mpr ?_⟩
      exact .inl ⟨hz, rfl⟩
    | noRegion checked hn hz hr bare =>
      refine .inr ⟨_, checkOptions_iff.mpr checked, history_resolved_bind.mpr ?_⟩
      refine .inr ⟨_, _, _, rfl, hn, history_resolved_bind.mpr ?_⟩
      refine .inr ⟨_, _, _, rfl, hz, history_step_lift_bind.mpr ?_⟩
      refine ⟨_, _, [], by simp, history_resolve_iff.mpr hr, history_check_bind.mpr ?_⟩
      exact .inl ⟨_, not_placed_iff.mpr ⟨rfl, bare, rfl⟩, rfl, rfl⟩
    | read checked hn hz hr placed =>
      refine .inr ⟨_, checkOptions_iff.mpr checked, history_resolved_bind.mpr ?_⟩
      refine .inr ⟨_, _, _, rfl, hn, history_resolved_bind.mpr ?_⟩
      refine .inr ⟨_, _, _, rfl, hz, history_step_lift_bind.mpr ?_⟩
      refine ⟨_, _, [], by simp, history_resolve_iff.mpr hr, history_check_bind.mpr ?_⟩
      exact .inr ⟨_, placed_iff.mpr placed, history_step_pure.mpr ⟨rfl, rfl⟩⟩

/-! ### The keys that are known -/

/-- All options that a request is read from. -/
def knownKeys : List String :=
  [diskKey, nodeKey, zoneKey, regionKey, fsTypeKey, categoryKey, readOnlyKey, encryptedKey]

/-- Options that agree on the known keys are read in the same way. -/
theorem parse_congr (same : ∀ key ∈ knownKeys, options.lookup key = other.lookup key)
    (defaultRegion : String) :
    Request.parse options defaultRegion = Request.parse other defaultRegion := by
  simp only [knownKeys, List.forall_mem_cons] at same
  obtain ⟨disk, node, zone, region, fsType, category, readOnly, encrypted, -⟩ := same
  simp only [Request.parse, checkOptions, resolve, Options.nonBlank?, disk, node, zone, region,
    fsType, category, readOnly, encrypted]

end BlockVolume.Volume
