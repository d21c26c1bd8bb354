import BlockVolume.Proofs.Checks
import BlockVolume.Proofs.Questions
import BlockVolume.Volume.Request
/-!
Where the fields of a request come from.

The disk, the file system and the category are checked before anything is asked. Then node, zone and
region are taken from the options, and each that is blank there is looked up once.
-/

namespace BlockVolume.Volume

open BlockVolume.Program

variable {options : Options} {name other value : String} {es : List (Exchange Ask.Answer)}

/-! ### Setting an option -/

theorem lookup_insert_self (options : Options) (name value : String) :
    (options.insert name value).lookup name = some value :=
  List.lookup_cons_self

theorem lookup_insert_of_ne (ne : other ≠ name) :
    (options.insert name value).lookup other = options.lookup other := by
  rw [Options.insert, List.lookup_cons, beq_false_of_ne ne]
  dsimp only
  induction options with
  | nil => rfl
  | cons first rest ih =>
    obtain ⟨key, text⟩ := first
    by_cases own : key = name
    · subst own
      rw [List.filter_cons_of_neg (by simp), ih, List.lookup_cons, beq_false_of_ne ne]
    · rw [List.filter_cons_of_pos (by simpa using own), List.lookup_cons, List.lookup_cons, ih]

/-- The option that was set is the trimmed value. -/
theorem nonBlank?_insert_self {found : String}
    (h : (options.insert name value).nonBlank? name = some found) : found = Text.trim value := by
  rw [Options.nonBlank?, lookup_insert_self] at h
  dsimp only at h
  split at h
  · cases h
  · exact (Option.some.inj h).symm

theorem nonBlank?_insert_of_ne (options : Options) (value : String) (ne : other ≠ name) :
    (options.insert name value).nonBlank? other = options.nonBlank? other := by
  rw [Options.nonBlank?, Options.nonBlank?, lookup_insert_of_ne ne]

/-! ### The parts of reading -/

theorem history_step_ofExcept {ε α : Type} {value result : Except ε α} :
    History (ExceptT.run (liftM value : ExceptT ε NodeProgram α)) es result ↔
      es = [] ∧ result = value :=
  history_pure

/-- What is resolved is an option, for which nothing is asked, or the answer to a look-up. -/
theorem history_resolve {key resource : String} {found : Option String}
    (h : History (resolve options key resource) es found) :
    (∃ value, options.nonBlank? key = some value ∧ es = [] ∧ found = some value) ∨
      options.nonBlank? key = none ∧ es = [⟨.cloud (.metadata resource), found⟩] := by
  rw [resolve] at h
  split at h
  case h_1 value given =>
    obtain ⟨rfl, rfl⟩ := history_pure.mp h
    exact Or.inl ⟨value, given, rfl, rfl⟩
  case h_2 blank => exact Or.inr ⟨blank, history_query.mp h⟩

theorem only_resolve {kind : Ask → Prop} {resource : String}
    (metadata : kind (.cloud (.metadata resource))) (options : Options) (key : String) :
    Only kind (resolve options key resource) := by
  rw [resolve]
  split
  · exact only_pure _
  · exact only_query metadata

theorem resolved_eq_ok {key : String} {found : Option String} :
    resolved key found = .ok value ↔ found = some value := by
  cases found <;> simp [resolved]

theorem nonBlank?_of_checkOptions {disk : String} {fsType : FsType} {category : Category}
    (h : checkOptions options = .ok (disk, fsType, category)) :
    options.nonBlank? diskKey = some disk := by
  rw [checkOptions] at h
  split at h
  case h_2 => cases h
  case h_1 found given =>
    rw [given]
    obtain ⟨_, heq, h⟩ := bind_eq_ok.mp h
    obtain rfl := Except.ok.inj heq
    -- the two other options do not change the disk
    dsimp only at h
    split at h <;> obtain ⟨_, -, h⟩ := bind_eq_ok.mp h <;> split at h <;>
      obtain ⟨_, -, h⟩ := bind_eq_ok.mp h <;>
        exact congrArg some (congrArg Prod.fst (Except.ok.inj h))

/-! ### Reading -/

/-- Reading options asks for three pieces of metadata and nothing else. -/
theorem only_reading {kind : Ask → Prop} (node : kind (.cloud (.metadata nodeResource)))
    (zone : kind (.cloud (.metadata zoneResource)))
    (region : kind (.cloud (.metadata regionResource))) (options : Options)
    (defaultRegion : String) : Only kind (Request.parse options defaultRegion).run := by
  refine Only.step_bind (only_pure _) fun checked => ?_
  refine Only.step_bind (Only.lift (only_resolve node _ _)) fun found => ?_
  refine Only.step_bind (only_pure _) fun node => ?_
  refine Only.step_bind (Only.lift (only_resolve zone _ _)) fun found => ?_
  refine Only.step_bind (only_pure _) fun zone => ?_
  refine Only.step_bind (Only.lift (only_resolve region _ _)) fun found => ?_
  exact Only.step_bind (only_pure _) fun region => only_pure _

theorem only_parse (options : Options) (region : String) :
    Only (fun question => ∃ resource, question = .cloud (.metadata resource))
      (Request.parse options region).run :=
  only_reading ⟨_, rfl⟩ ⟨_, rfl⟩ ⟨_, rfl⟩ options region

/-- The parts of a request that was read. -/
theorem history_parse {region : String} {request : Request}
    (h : History (Request.parse options region).run es (.ok request)) :
    ∃ forNode forZone forRegion found, es = forNode ++ (forZone ++ forRegion) ∧
      checkOptions options = .ok (request.disk, request.fsType, request.category) ∧
      History (resolve options nodeKey nodeResource) forNode (some request.node) ∧
      History (resolve options zoneKey zoneResource) forZone (some request.zone) ∧
      History (resolve options regionKey regionResource) forRegion found ∧
      found.or (if region.isEmpty then none else some region) = some request.region := by
  rcases history_step_bind.mp h with ⟨e, -, heq⟩ | ⟨_, ⟨disk, fsType, category⟩, rest, rfl, hp, h₁⟩
  · cases heq
  obtain ⟨rfl, checked⟩ := history_step_ofExcept.mp hp
  obtain ⟨forNode, found, rest, rfl, hn, h₂⟩ := history_step_lift_bind.mp h₁
  rcases history_step_bind.mp h₂ with ⟨e, -, heq⟩ | ⟨_, node, rest, rfl, hp, h₃⟩
  · cases heq
  obtain ⟨rfl, known⟩ := history_step_ofExcept.mp hp
  obtain rfl := resolved_eq_ok.mp known.symm
  obtain ⟨forZone, found, rest, rfl, hz, h₄⟩ := history_step_lift_bind.mp h₃
  rcases history_step_bind.mp h₄ with ⟨e, -, heq⟩ | ⟨_, zone, rest, rfl, hp, h₅⟩
  · cases heq
  obtain ⟨rfl, known⟩ := history_step_ofExcept.mp hp
  obtain rfl := resolved_eq_ok.mp known.symm
  obtain ⟨forRegion, found, rest, rfl, hr, h₆⟩ := history_step_lift_bind.mp h₅
  rcases history_step_bind.mp h₆ with ⟨e, -, heq⟩ | ⟨_, region, rest, rfl, hp, h₇⟩
  · cases heq
  obtain ⟨rfl, known⟩ := history_step_ofExcept.mp hp
  obtain ⟨rfl, heq⟩ := history_step_pure.mp h₇
  obtain rfl := Except.ok.inj heq
  exact ⟨forNode, forZone, forRegion, found, by simp, checked.symm, hn, hz, hr,
    resolved_eq_ok.mp known.symm⟩

end BlockVolume.Volume
