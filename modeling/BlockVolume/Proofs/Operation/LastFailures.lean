import BlockVolume.Proofs.Operation.Alphabet
import BlockVolume.Proofs.Operation.Failures
/-!
What the last failures of an operation tell.

A call that fails for good ends the operation, so the errors since the last call that was answered well
are those of the call that the operation ended with. Whether it ended for a control plane that stayed
busy or could not be reached can be told from them, and each part of an operation keeps this so.
-/

namespace BlockVolume.Operation

open BlockVolume.Cloud (ApiError Client Disk)
open BlockVolume.Program
open BlockVolume.Volume (Request)

variable {α β : Type} {setting : Setting} {request : Request} {target : Path} {region : String}
  {client : Client} {disk : Disk} {kinds : List ErrorKind} {policy : RetryPolicy}
  {errors : List ApiError} {answers : List (Except ApiError α)} {es : List (Exchange Ask.Answer)}

/-! ### Errors in a row -/

/-- The errors in a row after one more answer. -/
def note (errors : List ApiError) : Except ApiError α → List ApiError
  | .ok _ => []
  | .error e => errors ++ [e]

/-- The errors in a row after one more exchange; what is no call to the control plane leaves them. -/
def noteCall (errors : List ApiError) : Exchange Ask.Answer → List ApiError
  | ⟨.cloud (.describe _ _ _), reply⟩ => note errors reply
  | ⟨.cloud (.attach _ _ _), reply⟩ => note errors reply
  | ⟨.cloud (.detach _ _ _), reply⟩ => note errors reply
  | _ => errors

/-- The errors of the calls since the last one that was answered well. -/
def failures (es : List (Exchange Ask.Answer)) : List ApiError :=
  es.foldl noteCall []

theorem foldl_calls (errors : List ApiError) (es : List (Exchange Ask.Answer)) :
    (calls es).foldl noteCall errors = es.foldl noteCall errors := by
  rw [calls, List.foldl_filter]
  congr 1
  funext errors e
  obtain ⟨question, reply⟩ := e
  cases question with
  | cloud question => cases question <;> rfl
  | _ => rfl

theorem failures_quiet (quiet : ∀ e ∈ es, e.question.isControl = false) : failures es = [] := by
  rw [failures, ← foldl_calls, calls_eq_nil quiet, List.foldl_nil]

theorem failures_append {before : List (Exchange Ask.Answer)} (h : failures before = [])
    (after : List (Exchange Ask.Answer)) : failures (before ++ after) = failures after := by
  rw [failures, List.foldl_append, ← failures, h, failures]

theorem noteCall_exchange (call : ControlCall α) (api : Api) (reply : Except ApiError α) :
    noteCall errors (call.exchange api reply) = note errors reply := by
  cases call <;> rfl

theorem failures_answered {call : ControlCall α} (h : call.Answered es answers) :
    failures es = answers.foldl note [] := by
  rw [failures, ← foldl_calls]
  rw [ControlCall.Answered] at h
  generalize ([] : List ApiError) = errors
  generalize calls es = times at h
  induction h generalizing errors with
  | nil => rfl
  | cons answered _ ih =>
    obtain ⟨api, rfl⟩ := answered
    rw [List.foldl_cons, noteCall_exchange, ih, List.foldl_cons]

theorem foldl_note (past errors : List ApiError) :
    (errors.map (Except.error : ApiError → Except ApiError α)).foldl note past = past ++ errors := by
  induction errors generalizing past with
  | nil => rw [List.map_nil, List.foldl_nil, List.append_nil]
  | cons e errors ih => rw [List.map_cons, List.foldl_cons, note, ih, List.append_assoc]; rfl

theorem exists_errors (failed : ∀ reply ∈ answers, reply.toOption = none) :
    ∃ errors : List ApiError, answers = errors.map .error := by
  induction answers with
  | nil => exact ⟨[], rfl⟩
  | cons reply answers ih =>
    obtain ⟨first, later⟩ := List.forall_mem_cons.mp failed
    obtain ⟨errors, rfl⟩ := ih later
    cases reply with
    | ok value => cases first
    | error e => exact ⟨e :: errors, rfl⟩

/-! ### What they tell -/

/-- The errors end with a conflict, and are as many conflicts as the policy grants attempts. -/
def EndsBusy (policy : RetryPolicy) (errors : List ApiError) : Prop :=
  ∃ earlier last, errors = earlier ++ [last] ∧ last.errorClass = .conflict ∧
    errors.countP (·.errorClass == .conflict) = policy.attempts

/-- The errors end with two in a row that blame the client, and the second is a transport error. -/
def EndsUnreachable (errors : List ApiError) : Prop :=
  ∃ earlier first second, errors = earlier ++ [first, second] ∧
    first.errorClass.blamesClient = true ∧ second.errorClass = .transport

theorem endsBusy_concat {last : ApiError} :
    EndsBusy policy (errors ++ [last]) ↔ last.errorClass = .conflict ∧
      errors.countP (·.errorClass == .conflict) + 1 = policy.attempts := by
  constructor
  · rintro ⟨earlier, other, split, busy, count⟩
    obtain ⟨rfl, same⟩ := List.append_inj' split rfl
    obtain rfl := List.singleton_inj.mp same
    exact ⟨busy, by simpa [busy] using count⟩
  · rintro ⟨busy, count⟩
    exact ⟨errors, last, rfl, busy, by simpa [busy] using count⟩

theorem endsUnreachable_concat {last : ApiError} :
    EndsUnreachable (errors ++ [last]) ↔
      errors.getLast?.any (·.errorClass.blamesClient) = true ∧ last.errorClass = .transport := by
  constructor
  · rintro ⟨earlier, first, second, split, blames, lost⟩
    rw [List.append_cons earlier] at split
    obtain ⟨rfl, same⟩ := List.append_inj' split rfl
    obtain rfl := List.singleton_inj.mp same
    exact ⟨by simpa using blames, lost⟩
  · rintro ⟨blames, lost⟩
    rcases hl : errors.getLast? with _ | first
    · simp [hl] at blames
    · obtain ⟨earlier, rfl⟩ := List.getLast?_eq_some_iff.mp hl
      exact ⟨earlier, first, last, by simp, by simpa using blames, lost⟩

/-- The kind of error that a step ended with, if it failed. -/
def errorKind? : Except OperationError α → Option ErrorKind
  | .ok _ => none
  | .error e => some e.kind

theorem FailsAs.errorKind?_mem {x : Step α} {outcome : Except OperationError α}
    (fails : FailsAs kinds x) (h : History x.run es outcome) :
    ∀ kind ∈ errorKind? outcome, kind ∈ kinds := by
  intro kind ended
  cases outcome with
  | ok value => cases ended
  | error e =>
    obtain rfl := Option.some.inj ended
    exact fails h

/-- The errors at the end tell how a step ended. -/
structure Told (policy : RetryPolicy) (errors : List ApiError) (ended : Option ErrorKind) : Prop where
  /-- None is left where no call failed for good. -/
  none_left : (∀ kind ∈ ended, kind ∉ callKinds) → errors = []
  busy : EndsBusy policy errors ↔ ended = some .conflict
  unreachable : EndsUnreachable errors ↔ ended = some .transport

theorem told_nil {ended : Option ErrorKind} (other : ∀ kind ∈ ended, kind ∉ callKinds) :
    Told policy [] ended where
  none_left _ := rfl
  busy := by
    constructor
    · rintro ⟨earlier, last, split, -⟩
      simp at split
    · rintro rfl
      exact absurd (by decide) (other _ rfl)
  unreachable := by
    constructor
    · rintro ⟨earlier, first, second, split, -⟩
      simp at split
    · rintro rfl
      exact absurd (by decide) (other _ rfl)

/-- An error that is final after others tells which problem it comes to. -/
theorem told_of_verdict {last : ApiError} {problem : Problem}
    (h : verdict policy (errors.map (Except.error : ApiError → Except ApiError α)) (.error last) =
      some (.error problem)) : Told policy (errors ++ [last]) (some problem.kind) := by
  have count : (errors.map (Except.error : ApiError → Except ApiError α)).countP isConflict =
      errors.countP (·.errorClass == .conflict) := List.countP_map ..
  have blames : (errors.map (Except.error : ApiError → Except ApiError α)).getLast?.any
      blamesClient = errors.getLast?.any (·.errorClass.blamesClient) := by
    rw [List.getLast?_map, Option.any_map]
    rfl
  cases hc : last.errorClass with
  | capability | unknown =>
    simp only [verdict, hc] at h
    obtain rfl := Except.error.inj (Option.some.inj h)
    constructor <;> simp [Problem.kind, callKinds, endsBusy_concat, endsUnreachable_concat, hc]
  | conflict =>
    simp only [verdict, hc, count, Option.ite_none_right_eq_some] at h
    obtain ⟨granted, h⟩ := h
    obtain rfl := Except.error.inj (Option.some.inj h)
    constructor <;>
      simp [Problem.kind, callKinds, endsBusy_concat, endsUnreachable_concat, hc, granted]
  | authentication | transport =>
    simp only [verdict, hc, blames, Option.ite_none_right_eq_some] at h
    obtain ⟨again, h⟩ := h
    obtain rfl := Except.error.inj (Option.some.inj h)
    constructor <;>
      simp [Problem.kind, callKinds, endsBusy_concat, endsUnreachable_concat, hc, again]

/-! ### The parts -/

/-- Whatever a step is answered, its last failures tell how it ended. -/
def TellsFailures (policy : RetryPolicy) (x : Step α) : Prop :=
  ∀ ⦃es outcome⦄, History x.run es outcome → Told policy (failures es) (errorKind? outcome)

/-- A step that makes no call, and does not fail as one does, has no failures to tell. -/
theorem tellsFailures_of_quiet {x : Step α} (fails : FailsAs kinds x)
    (other : ∀ kind ∈ kinds, kind ∉ callKinds) (quiet : Only (·.isControl = false) x.run) :
    TellsFailures policy x := by
  intro es outcome h
  rw [failures_quiet (quiet h)]
  exact told_nil fun kind ended => other kind (fails.errorKind?_mem h kind ended)

theorem TellsFailures.bind {x : Step α} {f : α → Step β} (hx : TellsFailures policy x)
    (hf : ∀ value, TellsFailures policy (f value)) : TellsFailures policy (x >>= f) := by
  intro es outcome h
  rcases history_step_bind.mp h with ⟨e, first, rfl⟩ | ⟨before, value, after, rfl, first, later⟩
  · exact hx first
  · -- the first part has a value, so none of its calls failed for good
    rw [failures_append ((hx first).none_left (by simp [errorKind?]))]
    exact hf value later

theorem tellsFailures_pure (value : α) : TellsFailures policy (pure value : Step α) :=
  have never : FailsAs [] (pure value : Step α) := failsAs_pure value
  tellsFailures_of_quiet never (by simp) (only_pure _)

theorem tellsFailures_fail {problem : Problem} (other : problem.kind ∉ callKinds) :
    TellsFailures policy (setting.fail problem : Step α) :=
  tellsFailures_of_quiet (failsAs_fail (List.mem_singleton_self _))
    (by simpa using other) (only_pure _)

theorem failsAs_lift (p : NodeProgram α) : FailsAs [] (liftM p : Step α) := by
  intro es e failed
  obtain ⟨value, -, same⟩ := history_step_lift.mp failed
  cases same

theorem tellsFailures_lift_bind {p : NodeProgram α} {f : α → Step β}
    (quiet : Only (·.isControl = false) p) (hf : ∀ value, TellsFailures policy (f value)) :
    TellsFailures policy (liftM p >>= f) :=
  (tellsFailures_of_quiet (failsAs_lift p) (by simp) quiet.lift).bind hf

/-- A call that fails for good leaves the errors of all its answers. -/
theorem tellsFailures_call (call : ControlCall α) :
    TellsFailures setting.policy (setting.call call.make client) := by
  intro es outcome h
  obtain ⟨answers, result, last, answered, ⟨before, final, rfl, verdict, absorbed⟩, rfl⟩ :=
    settled_of_history call h
  obtain ⟨errors, rfl⟩ : ∃ errors : List ApiError, before = errors.map .error := by
    refine exists_errors fun reply hr => ?_
    obtain ⟨earlier, later, rfl⟩ := List.append_of_mem hr
    exact toOption_of_absorbed (absorbed earlier reply ⟨later, by simp⟩)
  rw [failures_answered answered, List.foldl_append, foldl_note, List.nil_append]
  cases final with
  | ok value =>
    obtain rfl := Option.some.inj verdict
    exact told_nil (by simp [conclude, errorKind?])
  | error e =>
    cases result with
    | ok value => cases toOption_of_verdict verdict
    | error problem => exact told_of_verdict verdict

theorem tellsFailures_connect : TellsFailures policy setting.connect :=
  tellsFailures_of_quiet failsAs_connect (by decide) fun _ _ h e he =>
    Ask.isControl_of_isCredential (asks_connect h e he)

theorem tellsFailures_describe : TellsFailures setting.policy (setting.describe region client) := by
  refine (tellsFailures_call (.describe region setting.context.disk)).bind fun answered => ?_
  obtain ⟨next, _ | disk⟩ := answered
  · exact tellsFailures_fail (by simp [Problem.kind, callKinds])
  · exact tellsFailures_pure (next, disk)

/-- A disk that is not found was looked up well. -/
theorem tellsFailures_describe? : TellsFailures setting.policy (describe? setting region client) := by
  intro es outcome h
  obtain ⟨before, described, after, rfl, hd, ha⟩ := history_bind.mp h
  have told := tellsFailures_describe hd
  split at ha
  case h_1 found =>
    obtain ⟨rfl, rfl⟩ := history_pure.mp ha
    rwa [List.append_nil]
  case h_2 =>
    obtain ⟨rfl, rfl⟩ := history_pure.mp ha
    rw [List.append_nil, told.none_left (by simp [errorKind?, OperationError.kind, Problem.kind,
      callKinds])]
    exact told_nil (by simp [errorKind?])
  case h_3 =>
    obtain ⟨rfl, rfl⟩ := history_pure.mp ha
    rwa [List.append_nil]

theorem tellsFailures_watch {expected : String} {settled : Disk → Bool} (left attempt : Nat)
    (client : Client) :
    TellsFailures setting.policy (setting.watch region expected settled left attempt client) := by
  induction left generalizing attempt client with
  | zero => exact tellsFailures_fail (by simp [Problem.kind, callKinds])
  | succ left ih =>
    rw [Setting.watch]
    refine tellsFailures_describe.bind fun found => ?_
    dsimp only
    split
    case isTrue => exact tellsFailures_pure found
    case isFalse =>
      split
      case isTrue => exact tellsFailures_lift_bind (only_query rfl) fun _ => ih (attempt + 1) found.1
      case isFalse => exact ih (attempt + 1) found.1

/-! ### The host -/

theorem failsAs_mountDevice :
    FailsAs [.hostIo, .deviceBusy] (mountDevice setting request disk target) := by
  have host {γ : Type} {doing : String} {reply : Except Mount.MountError γ} :
      FailsAs [.hostIo, .deviceBusy] (setting.onHost doing reply) :=
    failsAs_onHost.mono (by simp)
  rw [mountDevice]
  split
  case isTrue => exact failsAs_fail (by simp [Problem.kind])
  case isFalse =>
    refine failsAs_lift_bind fun device => failsAs_lift_bind fun created => ?_
    refine host.bind fun _ => failsAs_lift_bind fun looked => host.bind fun mounted => ?_
    cases mounted with
    | some mounted =>
      dsimp only
      split
      case isTrue => exact failsAs_pure ()
      case isFalse => exact failsAs_fail (by simp [Problem.kind])
    | none =>
      refine failsAs_lift_bind fun bare => ?_
      rcases bare with failure | _ | _
      · exact failsAs_fail (by simp [Problem.kind])
      · exact failsAs_fail (by simp [Problem.kind])
      · exact failsAs_lift_bind fun reply => host

theorem isControl_mountDevice :
    Only (·.isControl = false) (mountDevice setting request disk target).run :=
  only_mountDevice (fun _ => Ask.isControl_of_isInspecting) fun _ => rfl

theorem isControl_unmountTarget : Only (·.isControl = false) (unmountTarget setting target).run :=
  fun _ _ h e he => Ask.isControl_of_isHost (only_unmountTarget h e he)

theorem isControl_mountsElsewhere {own devices : List Path} :
    Only (·.isControl = false) (mountsElsewhere setting own devices).run :=
  fun _ _ h e he => Ask.isControl_of_isHost (isHost_mountsElsewhere own devices h e he)

theorem tellsFailures_mountDevice :
    TellsFailures policy (mountDevice setting request disk target) :=
  tellsFailures_of_quiet failsAs_mountDevice (by decide) isControl_mountDevice

theorem tellsFailures_unmountTarget : TellsFailures policy (unmountTarget setting target) :=
  tellsFailures_of_quiet failsAs_unmountTarget (by decide) isControl_unmountTarget

theorem tellsFailures_mountsElsewhere {own devices : List Path} :
    TellsFailures policy (mountsElsewhere setting own devices) :=
  tellsFailures_of_quiet failsAs_mountsElsewhere (by decide) isControl_mountsElsewhere

/-! ### Taking an attach apart -/

/-- Gets a client and looks the disk up. -/
def lookUp (setting : Setting) (region : String) : Step (Client × Disk) := do
  let client ← setting.connect
  setting.describe region client

/-- Watches the disk until it is in use, and mounts it. -/
def watchAndMount (setting : Setting) (request : Request) (target : Path) (client : Client) :
    Step Unit := do
  let found ← setting.waitFor request.region "attached" (·.isSettledOn request.node) client
  mountDevice setting request found.2 target

/-- What an attach does once it has looked its disk up. -/
def attachFound (setting : Setting) (request : Request) (target : Path) (found : Client × Disk) :
    Step Unit :=
  if found.2.isAttachedTo request.node then watchAndMount setting request target found.1
  else do
    let called ← setting.call (ControlCall.attach request.disk request.node).make found.1
    watchAndMount setting request target called.1

theorem attach_eq (setting : Setting) (request : Request) (target : Path) :
    attach setting request target =
      lookUp setting request.region >>= attachFound setting request target := by
  rw [lookUp, step_bind_assoc]
  refine congrArg (setting.connect >>= ·) (funext fun client => ?_)
  refine congrArg (setting.describe request.region client >>= ·) (funext fun found => ?_)
  rw [attachFound]
  dsimp only
  split <;> rfl

/-! ### The operations -/

theorem tellsFailures_attach : TellsFailures setting.policy (attach setting request target) := by
  have watches (client : Client) :
      TellsFailures setting.policy (watchAndMount setting request target client) :=
    (tellsFailures_watch _ 1 client).bind fun _ => tellsFailures_mountDevice
  rw [attach_eq]
  refine (tellsFailures_connect.bind fun client => tellsFailures_describe).bind fun found => ?_
  rw [attachFound]
  split
  case isTrue => exact watches found.1
  case isFalse => exact (tellsFailures_call _).bind fun called => watches called.1

theorem tellsFailures_unmountAndDetach :
    TellsFailures setting.policy (unmountAndDetach setting request target client) := by
  refine tellsFailures_unmountTarget.bind fun _ => ?_
  refine (tellsFailures_call (.detach request.disk request.node)).bind fun called => ?_
  exact (tellsFailures_watch _ 1 called.1).bind fun _ => tellsFailures_pure ()

theorem tellsFailures_detachHeld :
    TellsFailures setting.policy (detachHeld setting request target client disk) := by
  refine tellsFailures_lift_bind (only_query rfl) fun own => ?_
  refine tellsFailures_mountsElsewhere.bind fun busy => ?_
  split
  case isTrue => exact tellsFailures_unmountAndDetach
  case isFalse => exact tellsFailures_fail (by simp [Problem.kind, callKinds])

theorem tellsFailures_detach : TellsFailures setting.policy (detach setting request target) := by
  rw [detach_eq]
  refine (tellsFailures_connect.bind fun client => tellsFailures_describe?).bind fun found => ?_
  rcases detachFound_cases setting request target found with
    ⟨unmounts, -⟩ | ⟨client, disk, -, -, held⟩
  · rw [unmounts]
    exact tellsFailures_unmountTarget
  · rw [held]
    exact tellsFailures_detachHeld

end BlockVolume.Operation
