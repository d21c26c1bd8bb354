import BlockVolume.Proofs.Operation.DetachParts
/-!
How the parts of an operation fail.

Each part has a few kinds of errors of its own, and a step made of parts fails as one of them does. Only
a look-up comes to the kind `notFound`, and it does so exactly where one of its looks finds no disk. A
step that begins with a look-up, or that watches the disk later, takes this over from it.
-/

namespace BlockVolume.Operation

open BlockVolume.Cloud (ApiError Client Disk)
open BlockVolume.Mount (MountError)
open BlockVolume.Program

variable {α β : Type} {setting : Setting} {target : Path} {region : String} {client : Client}
  {kinds more : List ErrorKind} {es : List (Exchange Ask.Answer)}

/-! ### Kinds of failures -/

/-- A step fails with no error but one of some kinds. -/
def FailsAs (kinds : List ErrorKind) (x : Step α) : Prop :=
  ∀ ⦃es e⦄, History x.run es (.error e) → e.kind ∈ kinds

theorem FailsAs.mono {x : Step α} (h : FailsAs kinds x) (sub : kinds ⊆ more) : FailsAs more x := by
  intro es e failed
  exact sub (h failed)

theorem failsAs_pure (value : α) : FailsAs kinds (pure value : Step α) := by
  intro es e failed
  cases (history_step_pure.mp failed).2

theorem failsAs_fail {problem : Problem} (own : problem.kind ∈ kinds) :
    FailsAs kinds (setting.fail problem : Step α) := by
  intro es e failed
  obtain ⟨-, same⟩ := history_fail.mp failed
  obtain rfl := Except.error.inj same
  exact own

theorem FailsAs.bind {x : Step α} {f : α → Step β} (hx : FailsAs kinds x)
    (hf : ∀ value, FailsAs kinds (f value)) : FailsAs kinds (x >>= f) := by
  intro es e failed
  rcases history_step_bind.mp failed with ⟨e', first, same⟩ | ⟨before, value, after, -, -, later⟩
  · obtain rfl := Except.error.inj same
    exact hx first
  · exact hf value later

/-- A program in a step does not fail. -/
theorem failsAs_lift_bind {p : NodeProgram α} {f : α → Step β}
    (hf : ∀ value, FailsAs kinds (f value)) : FailsAs kinds (liftM p >>= f) := by
  intro es e failed
  obtain ⟨before, value, after, -, -, later⟩ := history_step_lift_bind.mp failed
  exact hf value later

theorem failsAs_onHost {doing : String} {reply : Except MountError α} :
    FailsAs [.hostIo] (setting.onHost doing reply) := by
  cases reply with
  | ok value => exact failsAs_pure value
  | error e => exact failsAs_fail (List.mem_singleton_self _)

/-- The kinds of a call that failed for good. -/
def callKinds : List ErrorKind := [.conflict, .capability, .authentication, .transport, .unknown]

theorem kind_ofCall (attempt : Nat) (e : ApiError) :
    (Problem.ofCall attempt e).kind ∈ callKinds := by
  cases hc : e.errorClass <;> simp [Problem.ofCall, hc, Problem.kind, callKinds]

theorem failsAs_callAgain {call : Api → NodeProgram (Except ApiError α)} (left attempt : Nat)
    (client : Client) : FailsAs callKinds (setting.callAgain call left attempt client) := by
  induction left using Nat.strongRecOn generalizing attempt client with
  | ind left ih =>
  rw [Setting.callAgain]
  refine failsAs_lift_bind fun answered => ?_
  obtain ⟨next, e | value⟩ := answered
  · dsimp only
    split
    case isFalse => exact failsAs_fail (kind_ofCall attempt e)
    case isTrue =>
      cases left with
      | zero => exact failsAs_fail (kind_ofCall attempt e)
      | succ left =>
        refine failsAs_lift_bind fun _ => failsAs_lift_bind fun again => ?_
        exact ih left left.lt_succ_self (attempt + 1) again
  · exact failsAs_pure _

theorem failsAs_call {call : Api → NodeProgram (Except ApiError α)} :
    FailsAs callKinds (setting.call call client) :=
  failsAs_callAgain _ 1 client

theorem failsAs_connect : FailsAs [.credentials] setting.connect := by
  refine failsAs_lift_bind fun found => ?_
  cases found with
  | none => exact failsAs_fail (List.mem_singleton_self _)
  | some client => exact failsAs_pure client

theorem failsAs_describe : FailsAs (.notFound :: callKinds) (setting.describe region client) := by
  refine (failsAs_call.mono (List.subset_cons_self _ _)).bind fun answered => ?_
  obtain ⟨next, _ | disk⟩ := answered
  · exact failsAs_fail List.mem_cons_self
  · exact failsAs_pure (next, disk)

theorem failsAs_watch {expected : String} {settled : Disk → Bool} (left attempt : Nat)
    (client : Client) : FailsAs (.timeout :: .notFound :: callKinds)
      (setting.watch region expected settled left attempt client) := by
  induction left generalizing attempt client with
  | zero => exact failsAs_fail List.mem_cons_self
  | succ left ih =>
    rw [Setting.watch]
    refine (failsAs_describe.mono (List.subset_cons_self _ _)).bind fun found => ?_
    dsimp only
    split
    case isTrue => exact failsAs_pure found
    case isFalse =>
      split
      case isTrue => exact failsAs_lift_bind fun _ => ih (attempt + 1) found.1
      case isFalse => exact ih (attempt + 1) found.1

theorem failsAs_unmountTarget : FailsAs [.hostIo] (unmountTarget setting target) := by
  refine failsAs_lift_bind fun reply => failsAs_onHost.bind fun count => ?_
  split
  case isTrue => exact failsAs_pure ()
  case isFalse => exact failsAs_lift_bind fun reply => failsAs_onHost

theorem failsAs_mountsElsewhere {own devices : List Path} :
    FailsAs [.hostIo] (mountsElsewhere setting own devices) := by
  induction devices with
  | nil => exact failsAs_pure []
  | cons device devices ih =>
    refine failsAs_lift_bind fun reply => failsAs_onHost.bind fun refs => ih.bind fun others => ?_
    exact failsAs_pure _

/-! ### Disks that are not found -/

/-- The error says that the disk was not found. -/
theorem OperationError.kind_eq_notFound {e : OperationError} :
    e.kind = .notFound ↔ ∃ context region, e = .failed context (.diskNotFound region) := by
  cases e with
  | validation source => simp [kind]
  | failed context problem =>
    cases problem with
    | rejected errorClass source => cases errorClass <;> simp [kind, Problem.kind]
    | _ => simp [kind, Problem.kind]

/-- A step does not find the disk exactly if one of its looks finds none. -/
def TellsAbsence (x : Step α) : Prop :=
  ∀ ⦃es outcome⦄, History x.run es outcome →
    ((∃ e, outcome = .error e ∧ e.kind = .notFound) ↔ .ok none ∈ looks es)

/-- A step that does not look at the disk has nothing to tell. -/
theorem tellsAbsence_of_blind {x : Step α} (fails : FailsAs kinds x) (other : .notFound ∉ kinds)
    (blind : ∀ ⦃es outcome⦄, History x.run es outcome → looks es = []) : TellsAbsence x := by
  intro es outcome h
  rw [blind h]
  constructor
  · rintro ⟨e, rfl, absent⟩
    exact absurd (absent ▸ fails h) other
  · intro seen
    cases seen

theorem TellsAbsence.bind {x : Step α} {f : α → Step β} (hx : TellsAbsence x)
    (hf : ∀ value, TellsAbsence (f value)) : TellsAbsence (x >>= f) := by
  intro es outcome h
  rcases history_step_bind.mp h with ⟨e, first, rfl⟩ | ⟨before, value, after, rfl, first, later⟩
  · rw [← hx first]
    simp
  · -- the first part has a value, so its looks have all found the disk
    have found : .ok none ∉ looks before := fun seen => by
      obtain ⟨e, same, -⟩ := (hx first).mpr seen
      cases same
    rw [hf value later, looks_append, List.mem_append, or_iff_right found]

theorem tellsAbsence_pure (value : α) : TellsAbsence (pure value : Step α) :=
  have never : FailsAs [] (pure value : Step α) := failsAs_pure value
  tellsAbsence_of_blind never List.not_mem_nil fun es outcome h => by
    rw [(history_step_pure.mp h).1, looks_nil]

theorem tellsAbsence_fail {problem : Problem} (other : problem.kind ≠ .notFound) :
    TellsAbsence (setting.fail problem : Step α) := by
  refine tellsAbsence_of_blind (failsAs_fail (List.mem_singleton_self _)) ?_ fun es outcome h => ?_
  · simpa using other.symm
  · rw [(history_fail.mp h).1, looks_nil]

/-- A program that is no call to the control plane has nothing to tell. -/
theorem tellsAbsence_lift_bind {p : NodeProgram α} {f : α → Step β}
    (quiet : Only (·.isControl = false) p) (hf : ∀ value, TellsAbsence (f value)) :
    TellsAbsence (liftM p >>= f) := by
  intro es outcome h
  obtain ⟨before, value, after, rfl, first, later⟩ := history_step_lift_bind.mp h
  rw [hf value later, looks_append, looks_eq_nil (quiet first), List.nil_append]

/-- Settled answers hold no value but that of the result. -/
theorem Settled.mem_ok_iff {policy : RetryPolicy} {answers : List (Except ApiError α)}
    {result : Except Problem α} {value : α} (h : Settled policy answers result) :
    .ok value ∈ answers ↔ result = .ok value := by
  obtain ⟨before, last, rfl, failed, same⟩ := h.errors
  have earlier : .ok value ∉ before := fun seen => Option.some_ne_none value (failed _ seen)
  rw [List.mem_append, or_iff_right earlier, List.mem_singleton]
  cases last with
  | ok found =>
    cases result with
    | ok other =>
      obtain rfl := Option.some.inj same
      simp [eq_comm]
    | error problem => cases same
  | error e =>
    cases result with
    | ok other => cases same
    | error problem => simp

theorem tellsAbsence_describe : TellsAbsence (setting.describe region client) := by
  intro es outcome h
  rcases history_step_bind.mp h with ⟨e, hc, rfl⟩ | ⟨before, ⟨next, found⟩, after, rfl, hc, ha⟩
  · obtain ⟨-, result, last, settled, same⟩ := looks_call hc
    have other : e.kind ≠ .notFound := by
      intro absent
      have own := failsAs_call hc
      rw [absent] at own
      exact absurd own (by decide)
    rw [settled.mem_ok_iff]
    cases result with
    | ok value => cases same
    | error problem => simpa using other
  · obtain ⟨-, result, last, settled, same⟩ := looks_call hc
    cases result with
    | error problem => cases same
    | ok value =>
    obtain ⟨rfl, rfl⟩ := Prod.mk.inj (Except.ok.inj same)
    cases found with
    | none =>
      obtain ⟨rfl, rfl⟩ := history_fail.mp ha
      rw [List.append_nil, settled.mem_ok_iff]
      simp [OperationError.kind, Problem.kind]
    | some disk =>
      obtain ⟨rfl, rfl⟩ := history_step_pure.mp ha
      rw [List.append_nil, settled.mem_ok_iff]
      simp

theorem tellsAbsence_watch {expected : String} {settled : Disk → Bool} (left attempt : Nat)
    (client : Client) :
    TellsAbsence (setting.watch region expected settled left attempt client) := by
  induction left generalizing attempt client with
  | zero => exact tellsAbsence_fail (by simp [Problem.kind])
  | succ left ih =>
    rw [Setting.watch]
    refine tellsAbsence_describe.bind fun found => ?_
    dsimp only
    split
    case isTrue => exact tellsAbsence_pure found
    case isFalse =>
      split
      case isTrue =>
        exact tellsAbsence_lift_bind (only_query rfl) fun _ => ih (attempt + 1) found.1
      case isFalse => exact ih (attempt + 1) found.1

end BlockVolume.Operation
