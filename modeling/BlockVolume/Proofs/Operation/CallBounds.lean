import BlockVolume.Proofs.Budget
import BlockVolume.Proofs.Operation.Alphabet
/-!
How many calls an operation makes.

An attempt makes its call once, and once more if the client is to blame for the first answer; a wait
comes before each attempt but the first. So the attempts that a policy grants bound the calls and
the waits, whatever the control plane answers. An operation looks for its disk once, and then as
often as the policy says while the disk settles; each of these looks is such a call.
-/

namespace BlockVolume

/-- A wait. -/
def Ask.isSleep : Ask → Bool
  | .sleep _ => true
  | _ => false

/-- A look at the disk. -/
def Ask.isDescribing : Ask → Bool
  | .cloud (.describe _ _ _) => true
  | _ => false

/-- The disk is asked to be attached or detached. -/
def Ask.isMoving : Ask → Bool
  | .cloud (.attach _ _ _) | .cloud (.detach _ _ _) => true
  | _ => false

theorem Ask.isSleep_of_isCredential {question : Ask} (h : question.isCredential) :
    question.isSleep = false := by
  cases question with
  | sleep ms => cases h
  | _ => rfl

theorem Ask.isMoving_of_isLooking {question : Ask} (h : question.isLooking) :
    question.isMoving = false := by
  cases question with
  | cloud question => cases question <;> simp_all [isLooking, isCredential, isMoving]
  | _ => rfl

theorem Ask.isMoving_of_isInspecting {question : Ask} (h : question.isInspecting) :
    question.isMoving = false := by
  cases question with
  | cloud question => cases h
  | _ => rfl

/-- A call to the control plane looks at the disk or moves it. -/
theorem Ask.isControl_eq (question : Ask) :
    question.isControl = (question.isDescribing || question.isMoving) := by
  cases question with
  | cloud question => cases question <;> rfl
  | _ => rfl

/-- Questions of one kind are all calls to the control plane. -/
def IsCallKind (kind : Ask → Bool) : Prop := ∀ question, kind question → question.isControl

theorem isCallKind_isDescribing : IsCallKind Ask.isDescribing := fun question h => by
  simp [question.isControl_eq, h]

theorem isCallKind_isMoving : IsCallKind Ask.isMoving := fun question h => by
  simp [question.isControl_eq, h]

theorem IsCallKind.eq_false {kind : Ask → Bool} (h : IsCallKind kind) {question : Ask}
    (quiet : question.isControl = false) : kind question = false :=
  Bool.eq_false_iff.mpr fun counted => by simp [h question counted] at quiet

namespace Operation

open BlockVolume.Cloud (Client Disk)
open BlockVolume.Program
open BlockVolume.Volume (Request)

variable {α : Type} {setting : Setting} {request : Request} {target : Path} {kind : Ask → Bool}
  {calls waits looks moves : Nat}

/-! ### One call -/

section Call

variable {call : ControlCall α}
  (credentials : ∀ question, question.isCredential → kind question = false)
  (makes : ∀ api, AtMost kind calls (call.make api))
include credentials makes

/-- An attempt makes its call twice at most. -/
theorem atMost_callOnce (client : Client) :
    AtMost kind (2 * calls) (setting.callOnce call.make client) := by
  rw [Nat.two_mul]
  refine (makes client.api).bind fun reply => ?_
  cases reply with
  | ok value => exact atMost_pure _
  | error e =>
    dsimp only
    split
    case isFalse => exact atMost_pure _
    case isTrue =>
      have refresh : AtMost kind 0 (client.refresh setting.source) :=
        (Cloud.only_refresh _ _).atMost credentials
      exact refresh.bind_of_none fun next =>
        (makes next.api).bind fun again => atMost_pure (n := 0) (next, again)

/-- Each attempt that follows the first has a wait before it. -/
theorem atMost_callAgain (sleeps : ∀ ms, AtMost kind waits (Ask.sleep ms).ask)
    (left attempt : Nat) (client : Client) :
    AtMost kind (2 * calls + left * (waits + 2 * calls))
      (setting.callAgain call.make left attempt client).run := by
  induction left generalizing attempt client with
  | zero =>
    rw [Setting.callAgain, Nat.zero_mul]
    refine (atMost_callOnce credentials makes client).lift.step_bind fun answered => ?_
    obtain ⟨next, e | value⟩ := answered
    · dsimp only
      split <;> exact atMost_pure _
    · exact atMost_pure _
  | succ left ih =>
    have more : (left + 1) * (waits + 2 * calls) =
        waits + (2 * calls + left * (waits + 2 * calls)) := by
      rw [Nat.add_one_mul left]
      omega
    rw [Setting.callAgain, more]
    refine (atMost_callOnce credentials makes client).lift.step_bind fun answered => ?_
    obtain ⟨next, e | value⟩ := answered
    · dsimp only
      split
      case isFalse => exact atMost_pure _
      case isTrue =>
        -- after a conflict come the wait, a fresh client, and the attempts that are left
        have refresh : AtMost kind 0 (next.refresh setting.source) :=
          (Cloud.only_refresh _ _).atMost credentials
        exact (sleeps _).lift.step_bind fun _ =>
          refresh.lift.step_bind_of_none fun again => ih (attempt + 1) again
    · exact atMost_pure _

theorem atMost_call (sleeps : ∀ ms, AtMost kind waits (Ask.sleep ms).ask) (client : Client) :
    AtMost kind (2 * calls + (setting.policy.attempts - 1) * (waits + 2 * calls))
      (setting.call call.make client).run := by
  have left : setting.policy.attempts - 1 = setting.policy.maxAttempts.toNat - 1 := by
    rw [RetryPolicy.attempts]
    omega
  rw [left]
  exact atMost_callAgain credentials makes sleeps _ 1 client

end Call

theorem atMost_sleep (quiet : ∀ ms, kind (.sleep ms) = false) (ms : Nat) :
    AtMost kind 0 (Ask.sleep ms).ask := by
  have own : Only (· = Ask.sleep ms) (Ask.sleep ms).ask := only_query rfl
  exact own.atMost fun _ h => h ▸ quiet ms

theorem atMost_make (call : ControlCall α) (api : Api) : AtMost kind 1 (call.make api) := by
  cases call <;> exact atMost_query _

theorem atMost_make_of_none {call : ControlCall α}
    (none : ∀ api reply, kind (call.exchange api reply).question = false) (api : Api) :
    AtMost kind 0 (call.make api) := by
  intro es reply h
  simp [ControlCall.history_make.mp h, none]

/-- A call is made at most twice in each attempt. -/
theorem isControl_call (call : ControlCall α) (client : Client) :
    AtMost Ask.isControl (2 * setting.policy.attempts) (setting.call call.make client).run := by
  have first : 1 ≤ setting.policy.attempts := Nat.le_max_left _ _
  refine (atMost_call (fun _ => Ask.isControl_of_isCredential) (atMost_make call)
    (atMost_sleep fun _ => rfl) client).mono ?_
  omega

/-- A wait comes before each attempt but the first. -/
theorem isSleep_call (call : ControlCall α) (client : Client) :
    AtMost Ask.isSleep (setting.policy.attempts - 1) (setting.call call.make client).run := by
  refine (atMost_call (fun _ => Ask.isSleep_of_isCredential)
    (atMost_make_of_none fun api reply => ?_) (fun ms => atMost_query _) client).mono ?_
  · cases call <;> rfl
  · omega

/-! ### Operations -/

section Operations

variable (control : IsCallKind kind)
include control

/-- A call is made at most twice in each attempt, and nothing else is called for. -/
theorem atMost_call_of_isCallKind (call : ControlCall α) (client : Client) :
    AtMost kind (2 * setting.policy.attempts) (setting.call call.make client).run :=
  (isControl_call call client).imp control

theorem atMost_call_of_none {call : ControlCall α}
    (none : ∀ api reply, kind (call.exchange api reply).question = false) (client : Client) :
    AtMost kind 0 (setting.call call.make client).run := by
  refine (atMost_call (fun _ h => control.eq_false (Ask.isControl_of_isCredential h))
    (atMost_make_of_none none) (atMost_sleep fun _ => control.eq_false rfl) client).mono ?_
  omega

omit control in
/-- A look-up asks what its call asks. -/
theorem atMost_describe {region : String} {client : Client}
    (h : AtMost kind looks (setting.call (ControlCall.describe region setting.context.disk).make
      client).run) : AtMost kind looks (setting.describe region client).run := by
  refine h.step_bind (n := 0) fun found => ?_
  dsimp only
  split <;> exact atMost_pure _

/-- While a disk settles, it is looked for as often as the policy says. -/
theorem atMost_watch {region expected : String} {settled : Disk → Bool}
    (describes : ∀ client, AtMost kind looks (setting.describe region client).run)
    (left attempt : Nat) (client : Client) :
    AtMost kind (left * looks)
      (setting.watch region expected settled left attempt client).run := by
  induction left generalizing attempt client with
  | zero => exact atMost_pure _
  | succ left ih =>
    rw [Setting.watch, Nat.add_one_mul, Nat.add_comm]
    refine (describes client).step_bind fun found => ?_
    dsimp only
    split
    case isTrue => exact atMost_pure _
    case isFalse =>
      split
      case isTrue =>
        exact (atMost_sleep (fun _ => control.eq_false rfl) _).lift.step_bind_of_none fun _ =>
          ih (attempt + 1) found.1
      case isFalse => exact ih (attempt + 1) found.1

theorem atMost_connect : AtMost kind 0 setting.connect.run := by
  have asks : Only (·.isCredential) setting.connect.run := fun _ _ h => asks_connect h
  exact asks.atMost fun _ h => control.eq_false (Ask.isControl_of_isCredential h)

theorem atMost_attach
    (describes : ∀ client, AtMost kind looks (setting.describe request.region client).run)
    (attaches : ∀ client, AtMost kind moves (setting.call
      (ControlCall.attach request.disk request.node).make client).run) :
    AtMost kind (looks + (moves + setting.policy.maxAttempts.toNat * looks))
      (attach setting request target).run := by
  have mounts (disk : Disk) : AtMost kind 0 (mountDevice setting request disk target).run :=
    (only_mountDevice (fun _ => Ask.isControl_of_isInspecting) fun _ => rfl).atMost
      fun _ h => control.eq_false h
  have watches (client : Client) : AtMost kind (setting.policy.maxAttempts.toNat * looks)
      (ExceptT.run (do
        let found ← setting.waitFor request.region "attached" (·.isSettledOn request.node) client
        mountDevice setting request found.2 target)) :=
    (atMost_watch control describes _ 1 client).step_bind fun found => mounts found.2
  refine (atMost_connect control).step_bind_of_none fun client => ?_
  refine (describes client).step_bind fun found => ?_
  dsimp only
  split
  case isTrue => exact (watches found.1).mono (Nat.le_add_left _ _)
  case isFalse => exact (attaches found.1).step_bind fun called => watches called.1

theorem atMost_detach
    (describes : ∀ client, AtMost kind looks (setting.describe request.region client).run)
    (detaches : ∀ client, AtMost kind moves (setting.call
      (ControlCall.detach request.disk request.node).make client).run) :
    AtMost kind (looks + (moves + setting.policy.maxAttempts.toNat * looks))
      (detach setting request target).run := by
  have host (question : Ask) (h : question.isHost) : kind question = false :=
    control.eq_false (Ask.isControl_of_isHost h)
  have unmounts : AtMost kind 0 (unmountTarget setting target).run := only_unmountTarget.atMost host
  have finds : AtMost kind looks (findDisk setting request.region).run := by
    refine (atMost_connect control).step_bind_of_none fun client => ?_
    refine (describes client).bind (n := 0) fun found => ?_
    split <;> exact atMost_pure _
  rw [detach_eq]
  refine finds.step_bind fun found => ?_
  rcases detachFound_cases setting request target found with
    ⟨unmounted, -⟩ | ⟨client, disk, -, -, held⟩
  · rw [unmounted]
    exact unmounts.mono (Nat.zero_le _)
  · rw [held]
    have located : Only (·.isHost) (TreeAsk.canonical target).ask := only_query rfl
    refine (located.atMost host).lift.step_bind_of_none fun own => ?_
    refine ((isHost_mountsElsewhere _ _).atMost host).step_bind_of_none fun busy => ?_
    split
    case isTrue =>
      refine unmounts.step_bind_of_none fun _ => ?_
      refine (detaches client).step_bind fun called => ?_
      exact (atMost_watch control describes _ 1 called.1).step_bind fun _ =>
        atMost_pure (n := 0) _
    case isFalse => exact atMost_pure _

end Operations

/-- The looks of an operation: one call at first, and one for each look that is granted while the
disk settles. -/
def lookBudget (policy : RetryPolicy) : Nat :=
  2 * policy.attempts * (1 + policy.maxAttempts.toNat)

theorem isMoving_describe (region : String) (client : Client) :
    AtMost Ask.isMoving 0 (setting.describe region client).run :=
  atMost_describe (atMost_call_of_none isCallKind_isMoving (fun _ _ => rfl) client)

theorem isDescribing_describe (region : String) (client : Client) :
    AtMost Ask.isDescribing (2 * setting.policy.attempts) (setting.describe region client).run :=
  atMost_describe (atMost_call_of_isCallKind isCallKind_isDescribing _ client)

theorem isMoving_attach :
    AtMost Ask.isMoving (2 * setting.policy.attempts) (attach setting request target).run := by
  refine (atMost_attach isCallKind_isMoving (isMoving_describe _)
    (atMost_call_of_isCallKind isCallKind_isMoving _)).mono ?_
  omega

theorem isMoving_detach :
    AtMost Ask.isMoving (2 * setting.policy.attempts) (detach setting request target).run := by
  refine (atMost_detach isCallKind_isMoving (isMoving_describe _)
    (atMost_call_of_isCallKind isCallKind_isMoving _)).mono ?_
  omega

/-- The looks while the disk settles come to what the first look asks, times those granted. -/
theorem lookBudget_eq (policy : RetryPolicy) :
    2 * policy.attempts + (0 + policy.maxAttempts.toNat * (2 * policy.attempts)) =
      lookBudget policy := by
  rw [lookBudget, Nat.mul_add, Nat.mul_one, Nat.zero_add, Nat.mul_comm (2 * policy.attempts)]

theorem isDescribing_attach :
    AtMost Ask.isDescribing (lookBudget setting.policy) (attach setting request target).run := by
  rw [← lookBudget_eq]
  exact atMost_attach isCallKind_isDescribing (isDescribing_describe _)
    (atMost_call_of_none isCallKind_isDescribing fun _ _ => rfl)

theorem isDescribing_detach :
    AtMost Ask.isDescribing (lookBudget setting.policy) (detach setting request target).run := by
  rw [← lookBudget_eq]
  exact atMost_detach isCallKind_isDescribing (isDescribing_describe _)
    (atMost_call_of_none isCallKind_isDescribing fun _ _ => rfl)

/-- In any surroundings a call to the control plane comes to its end: it is made at most twice for
each attempt that the policy grants, with a wait before each attempt but the first. An attach or a
detach comes to its end too: the disk is moved by one such call at most, and it is looked at by one
such call at first and by one more for each look that the policy grants while it settles. -/
theorem operations_bounded {σ : Type} (answer : (q : Ask) → σ → Ask.Answer q × σ) (s : σ)
    (setting : Setting) (request : Request) (target : Path) :
    let granted := setting.policy.attempts
    let lookups := 2 * granted * (1 + setting.policy.maxAttempts.toNat)
    (∀ (α : Type) (call : ControlCall α) (client : Client), ∃ ms outcome s',
      Course answer (setting.call call.make client).run s ms outcome s' ∧
        timesAsked Ask.isControl ms ≤ 2 * granted ∧ timesAsked Ask.isSleep ms ≤ granted - 1) ∧
    (∃ ms outcome s', Course answer (attach setting request target).run s ms outcome s' ∧
      timesAsked Ask.isMoving ms ≤ 2 * granted ∧ timesAsked Ask.isDescribing ms ≤ lookups) ∧
    ∃ ms outcome s', Course answer (detach setting request target).run s ms outcome s' ∧
      timesAsked Ask.isMoving ms ≤ 2 * granted ∧ timesAsked Ask.isDescribing ms ≤ lookups := by
  intro granted lookups
  refine ⟨fun α call client => ?_, ?_, ?_⟩
  · exact (isControl_call call client).exists_course answer s (isSleep_call call client)
  · exact isMoving_attach.exists_course answer s isDescribing_attach
  · exact isMoving_detach.exists_course answer s isDescribing_detach

end Operation
end BlockVolume
