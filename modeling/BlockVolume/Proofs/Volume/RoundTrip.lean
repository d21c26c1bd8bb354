import BlockVolume.Http.Answer
import BlockVolume.Proofs.Text.Cutting
import BlockVolume.Proofs.Volume.Request
import BlockVolume.Rehearsal.Script
/-!
Requests as options, read again.

All fields of a request that come from options or metadata are trimmed and not empty, so they are
read back as they are. A default region stands in a request as it was configured, and loses the
blanks around it when it is read back as an option.
-/

namespace BlockVolume.Volume

open BlockVolume.Program

/-- A trimmed text that is not empty. -/
def Tidy (value : String) : Prop := value ≠ "" ∧ Text.trim value = value

instance (value : String) : Decidable (Tidy value) := inferInstanceAs (Decidable (_ ∧ _))

/-- Metadata answers nothing but tidy texts. -/
def TidyAnswers (es : List (Exchange Ask.Answer)) : Prop :=
  ∀ resource value, (⟨.cloud (.metadata resource), some value⟩ : Exchange Ask.Answer) ∈ es →
    Tidy value

variable {options : Options} {key value region : String} {request : Request}
  {es : List (Exchange Ask.Answer)}

/-- The metadata service over HTTP keeps to that. -/
theorem tidy_of_text? {answer : Http.Answer} (h : answer.text? = some value) : Tidy value := by
  cases answer with
  | cutShort | closed => simp [Http.Answer.text?] at h
  | full status body =>
    simp only [Http.Answer.text?] at h
    split at h
    case isFalse => cases h
    case isTrue =>
      split at h
      case isTrue => cases h
      case isFalse some =>
        obtain rfl := Option.some.inj h
        exact ⟨by simpa using some, by simp [Text.trim]⟩

/-! ### Values that are read -/

theorem tidy_of_nonBlank? (h : options.nonBlank? key = some value) : Tidy value := by
  rw [Options.nonBlank?] at h
  split at h
  case h_2 => cases h
  case h_1 given _ =>
    split at h
    case isTrue => cases h
    case isFalse some =>
      obtain rfl := Option.some.inj h
      exact ⟨by simpa using some, Text.trim_trim given⟩

/-- A tidy option is read as it is. -/
theorem nonBlank?_of_tidy (given : options.lookup key = some value) (tidy : Tidy value) :
    options.nonBlank? key = some value := by
  rw [Options.nonBlank?, given]
  dsimp only
  rw [tidy.2, if_neg (by simpa using tidy.1)]

theorem tidy_of_resolve {resource : String}
    (h : History (resolve options key resource) es (some value)) (tidy : TidyAnswers es) : Tidy value := by
  rcases history_resolve h with ⟨found, given, -, heq⟩ | ⟨-, rfl⟩
  · obtain rfl := Option.some.inj heq
    exact tidy_of_nonBlank? given
  · exact tidy resource value List.mem_cons_self

/-- Where something was asked in vain, nothing was found. -/
theorem eq_none_of_resolve {resource other : String} {found : Option String}
    (h : History (resolve options key resource) es found)
    (asked : (⟨.cloud (.metadata other), none⟩ : Exchange Ask.Answer) ∈ es) : found = none := by
  rcases history_resolve h with ⟨_, -, rfl, -⟩ | ⟨-, rfl⟩
  · cases asked
  · have same := List.mem_singleton.mp asked
    simp only [Exchange.mk.injEq, Ask.cloud.injEq, CloudAsk.metadata.injEq] at same
    obtain ⟨rfl, heq⟩ := same
    exact (eq_of_heq heq).symm

/-! ### Reading a written request -/

theorem parse_name_fsType (fsType : FsType) : FsType.parse fsType.name = .ok fsType := by
  cases fsType <;> rfl

theorem parse_name_category (category : Category) :
    Category.parse category.name = .ok category := by
  cases category <;> rfl

theorem isSet_switchText (on : Bool) : isSet (some (switchText on)) = on := by
  cases on <;> decide

theorem checkOptions_toOptions (tidy : Tidy request.disk) :
    checkOptions request.toOptions = .ok (request.disk, request.fsType, request.category) := by
  have disk : request.toOptions.nonBlank? diskKey = some request.disk :=
    nonBlank?_of_tidy rfl tidy
  have fsType : request.toOptions.lookup fsTypeKey = some request.fsType.name := rfl
  have category : request.toOptions.lookup categoryKey = some request.category.name := rfl
  simp only [checkOptions, disk, fsType, category, parse_name_fsType, parse_name_category]
  rfl

section Run

variable {σ : Type} {answer : (q : Ask) → σ → Ask.Answer q × σ}

/-- What is given is not asked for. -/
theorem run_resolved_of_some {α : Type} {resource : String} {f : String → ParseStep α}
    (given : options.nonBlank? key = some value) (s : σ) :
    (ExceptT.run (liftM (resolve options key resource) >>= fun found =>
      liftM (resolved key found) >>= f)).run answer s = (f value).run.run answer s := by
  rw [run_step_bind, run_step_lift, resolve, given]
  rfl

/-- Where metadata has nothing to say, only options count. -/
theorem run_resolve_of_silent
    (silent : ∀ resource s, (answer (.cloud (.metadata resource)) s).1 = none)
    (options : Options) (key resource : String) (s : σ) :
    ((resolve options key resource).run answer s).1 = options.nonBlank? key := by
  rw [resolve]
  cases given : options.nonBlank? key with
  | some value => rfl
  | none => exact silent resource s

/-- Without metadata and without a default region, a request is read back with its region trimmed,
or not at all if nothing is left of that. -/
theorem run_parse_toOptions
    (silent : ∀ resource s, (answer (.cloud (.metadata resource)) s).1 = none)
    (disk : Tidy request.disk) (node : Tidy request.node) (zone : Tidy request.zone) (s : σ) :
    ((Request.parse request.toOptions "").run.run answer s).1 =
      if Text.trim request.region = "" then .error (.unresolved regionKey)
      else .ok { request with region := Text.trim request.region } := by
  have node : request.toOptions.nonBlank? nodeKey = some request.node := nonBlank?_of_tidy rfl node
  have zone : request.toOptions.nonBlank? zoneKey = some request.zone := nonBlank?_of_tidy rfl zone
  have region : request.toOptions.nonBlank? regionKey =
      if (Text.trim request.region).isEmpty then none else some (Text.trim request.region) := rfl
  have readOnly : isSet (request.toOptions.lookup readOnlyKey) = request.readOnly :=
    isSet_switchText request.readOnly
  have encrypted : isSet (request.toOptions.lookup encryptedKey) = request.encrypted :=
    isSet_switchText request.encrypted
  rw [Request.parse, run_step_bind, run_step_ofExcept, checkOptions_toOptions disk]
  dsimp only
  rw [run_resolved_of_some node, run_resolved_of_some zone, run_step_bind, run_step_lift]
  dsimp only
  rw [run_resolve_of_silent silent, region, run_step_bind, run_step_ofExcept]
  by_cases blank : Text.trim request.region = ""
  · rw [if_pos blank, if_pos (by simpa using blank)]
    rfl
  · rw [if_neg blank, if_neg (by simpa using blank), readOnly, encrypted]
    rfl

/-- A request that was read from tidy answers and is written as options, is read back from these
without metadata and default region exactly if it did not take a region with blanks around it from
the default, for want of one in the options and in metadata. -/
theorem parse_toOptions_iff (read : History (Request.parse options region).run es (.ok request))
    (tidy : TidyAnswers es)
    (silent : ∀ resource s, (answer (.cloud (.metadata resource)) s).1 = none) (s : σ) :
    ((Request.parse request.toOptions "").run.run answer s).1 = .ok request ↔
      ((⟨.cloud (.metadata regionResource), none⟩ : Exchange Ask.Answer) ∈ es →
        Text.trim region = region) := by
  obtain ⟨forNode, forZone, forRegion, found, rfl, checked, hn, hz, hr, known⟩ := history_parse read
  have tidyNode : TidyAnswers forNode := fun resource value he =>
    tidy resource value (List.mem_append_left _ he)
  have tidyZone : TidyAnswers forZone := fun resource value he =>
    tidy resource value (List.mem_append_right _ (List.mem_append_left _ he))
  have tidyRegion : TidyAnswers forRegion := fun resource value he =>
    tidy resource value (List.mem_append_right _ (List.mem_append_right _ he))
  have disk := tidy_of_nonBlank? (nonBlank?_of_checkOptions checked)
  rw [run_parse_toOptions silent disk (tidy_of_resolve hn tidyNode) (tidy_of_resolve hz tidyZone)]
  cases found with
  | some value =>
    obtain rfl := Option.some.inj known
    have region := tidy_of_resolve hr tidyRegion
    rw [region.2, if_neg region.1]
    refine iff_of_true rfl fun asked => ?_
    -- all three values were found, so nothing was asked in vain
    rcases List.mem_append.mp asked with asked | asked
    · cases (eq_none_of_resolve hn asked)
    rcases List.mem_append.mp asked with asked | asked
    · cases (eq_none_of_resolve hz asked)
    · cases (eq_none_of_resolve hr asked)
  | none =>
    obtain ⟨some, rfl⟩ : region.isEmpty = false ∧ region = request.region := by simpa using known
    have asked : (⟨.cloud (.metadata regionResource), none⟩ : Exchange Ask.Answer) ∈ forRegion := by
      rcases history_resolve hr with ⟨_, -, -, heq⟩ | ⟨-, rfl⟩
      · cases heq
      · exact List.mem_cons_self
    have vain := List.mem_append_right forNode (List.mem_append_right forZone asked)
    rw [forall_prop_of_true vain]
    constructor
    · intro h
      split at h
      · cases h
      · exact congrArg Request.region (Except.ok.inj h)
    · intro trimmed
      rw [trimmed, if_neg (by simpa using some)]

end Run

/-! ### Default regions -/

/-- In a run, tidy metadata answers with tidy texts. -/
theorem tidyAnswers_moments {α σ : Type} {answer : (q : Ask) → σ → Ask.Answer q × σ}
    (tidy : ∀ resource s value, (answer (.cloud (.metadata resource)) s).1 = some value →
      Tidy value)
    (p : NodeProgram α) (s : σ) : TidyAnswers ((p.moments answer s).map Prod.snd) := by
  induction p generalizing s with
  | done result => exact fun _ _ he => by cases he
  | ask question next ih =>
    intro resource value he
    rcases List.mem_cons.mp he with heq | later
    · obtain ⟨rfl, answered⟩ := Exchange.mk.inj heq
      exact tidy resource s value (eq_of_heq answered).symm
    · exact ih _ _ resource value later

/-- A cloud of which nothing but some metadata can be read. -/
def metadataOf (resources : List (String × String)) : Node.CloudModel Unit where
  metadata resource s := (resources.lookup resource, s)
  accepts _ s := (false, s)
  describe _ _ _ s := ((.ok none, 0), s)
  change _ _ _ _ s := ((.error (.transport "unreachable"), 0), s)

/-- The way such a cloud, and a host without mounts and files, answer. -/
def answersOf (resources : List (String × String)) :
    (q : Ask) → Node.World Unit Mount.Ledger → Ask.Answer q × Node.World Unit Mount.Ledger :=
  Node.World.reply (metadataOf resources) Rehearsal.bookkeeper

theorem tidy_answersOf {resources : List (String × String)} (h : ∀ pair ∈ resources, Tidy pair.2)
    (resource : String) (world : Node.World Unit Mount.Ledger) (value : String)
    (answered : (answersOf resources (.cloud (.metadata resource)) world).1 = some value) :
    Tidy value := by
  obtain ⟨before, after, rfl, -⟩ := List.lookup_eq_some_iff.mp answered
  exact h (resource, value) (by simp)

/-- A world in which nothing has happened. -/
def idleWorld : Node.World Unit Mount.Ledger := .start () (.ofTable []) ⟨[]⟩

/-- The request that options say there. -/
def readIn (resources : List (String × String)) (options : Options) (region : String) :
    Except ValidationError Request :=
  ((Request.parse options region).run.run (answersOf resources) idleWorld).1

/-- Options with blanks and capitals, and nothing about the place. -/
def sampleOptions : Options := [(diskKey, " d-1\n"), (fsTypeKey, "ext3"), (readOnlyKey, "Yes")]

/-- Metadata that does not know the region. -/
def sampleMetadata : List (String × String) := [(nodeResource, "i-1"), (zoneResource, "cn-a-1")]

/-- What they say in a region. -/
def sampleRequest (region : String) : Request :=
  ⟨"d-1", "i-1", "cn-a-1", region, .ext3, .available, true, false⟩

theorem tidy_sampleMetadata : ∀ pair ∈ sampleMetadata, Tidy pair.2 := by decide +kernel

/-- A default region without blanks around it is read back. -/
theorem plain_region_read_back :
    readIn sampleMetadata sampleOptions "cn-a" = .ok (sampleRequest "cn-a") ∧
      readIn [] (sampleRequest "cn-a").toOptions "" = .ok (sampleRequest "cn-a") := by
  have read : readIn sampleMetadata sampleOptions "cn-a" = .ok (sampleRequest "cn-a") := by
    decide +kernel
  have history : History (Request.parse sampleOptions "cn-a").run
      (((Request.parse sampleOptions "cn-a").run.moments (answersOf sampleMetadata) idleWorld).map
        Prod.snd) (.ok (sampleRequest "cn-a")) :=
    read ▸ (course_self (answersOf sampleMetadata) _ idleWorld).history
  have tidy := tidyAnswers_moments (tidy_answersOf tidy_sampleMetadata)
    (Request.parse sampleOptions "cn-a").run idleWorld
  exact ⟨read, (parse_toOptions_iff history tidy (fun _ _ => rfl) idleWorld).mpr
    fun _ => by decide +kernel⟩

/-- One with a blank before it is not. -/
theorem padded_region_not_read_back :
    readIn sampleMetadata sampleOptions " cn-a" = .ok (sampleRequest " cn-a") ∧
      readIn [] (sampleRequest " cn-a").toOptions "" ≠ .ok (sampleRequest " cn-a") := by
  decide +kernel

end BlockVolume.Volume
