import BlockVolume.Operation.Execute
import BlockVolume.Proofs.Operation.CallBounds
import BlockVolume.Proofs.Operation.DetachFound
import BlockVolume.Proofs.Operation.LastFailures
import BlockVolume.Proofs.Operation.Polling
/-!
Which errors may be retried.

The caller of an operation is told by the code of its status whether to try again. It may where the
control plane has stayed busy or out of reach, or where the disk was watched in vain, and only there:
each of these can be seen in what the operation was answered.
-/

namespace BlockVolume.Operation

open BlockVolume.Cloud (ApiError Client Disk)
open BlockVolume.Program
open BlockVolume.Volume (Request)

variable {α β : Type} {setting : Setting} {request : Request} {target : Path} {region : String}
  {client : Client} {disk : Disk} {kinds : List ErrorKind} {settled : Disk → Bool} {granted : Nat}
  {es : List (Exchange Ask.Answer)}

/-! ### Errors and their codes -/

/-- The code tells the caller to try again. -/
def Code.allowsRetry (code : Code) : Prop := code = .aborted ∨ code = .unavailable

theorem isRetryable_iff_kind (e : OperationError) :
    e.isRetryable = true ↔ e.kind = .conflict ∨ e.kind = .timeout ∨ e.kind = .transport := by
  cases e with
  | validation source => simp [OperationError.isRetryable, OperationError.kind]
  | failed context problem =>
    cases problem with
    | rejected errorClass source =>
      cases errorClass <;>
        simp [OperationError.isRetryable, OperationError.kind, Problem.isRetryable, Problem.kind]
    | _ => simp [OperationError.isRetryable, OperationError.kind, Problem.isRetryable, Problem.kind]

theorem allowsRetry_fatalCode (kind : ErrorKind) :
    kind.fatalCode.allowsRetry ↔ kind = .conflict ∨ kind = .timeout ∨ kind = .transport := by
  cases kind <;> simp [ErrorKind.fatalCode, Code.allowsRetry]

theorem allowsRetry_retryableCode (kind : ErrorKind) : kind.retryableCode.allowsRetry := by
  cases kind <;> simp [ErrorKind.retryableCode, Code.allowsRetry]

/-- The outcome of an error and its status agree on what the error says. -/
structure Agrees (e : OperationError) (outcome : Outcome) : Prop where
  retryable : (∃ kind detail, outcome = .retryable kind detail) ↔ e.isRetryable = true
  code : e.status.code.allowsRetry ↔ e.isRetryable = true
  status : outcome.status = .error e.status
  message : e.status.message = e.message

theorem status_ofResult (e : OperationError) :
    (Outcome.ofResult (.error e)).status = .error e.status := by
  rw [OperationError.status, Outcome.ofResult]
  cases e.isRetryable <;> rfl

theorem OperationError.status_eq (e : OperationError) : e.status =
    ⟨if e.isRetryable then e.kind.retryableCode else e.kind.fatalCode, e.message⟩ := by
  rw [status, Outcome.ofResult]
  cases e.isRetryable <;> rfl

theorem allowsRetry_status (e : OperationError) :
    e.status.code.allowsRetry ↔ e.isRetryable = true := by
  rw [e.status_eq]
  dsimp only
  split
  case isTrue retry => exact iff_of_true (allowsRetry_retryableCode e.kind) retry
  case isFalse => rw [allowsRetry_fatalCode, isRetryable_iff_kind]

theorem agrees_ofResult (e : OperationError) : Agrees e (.ofResult (.error e)) where
  retryable := by
    rw [Outcome.ofResult]
    split
    case isTrue retry => simp [retry]
    case isFalse final => simp [final]
  code := allowsRetry_status e
  status := status_ofResult e
  message := by rw [e.status_eq]

/-! ### What was found and what was moved -/

/-- What the looks have found that were answered well. -/
def finds (es : List (Exchange Ask.Answer)) : List (Option Disk) :=
  (looks es).filterMap Except.toOption

@[simp] theorem finds_nil : finds [] = [] := rfl

@[simp] theorem finds_append (es fs : List (Exchange Ask.Answer)) :
    finds (es ++ fs) = finds es ++ finds fs := by
  rw [finds, looks_append, List.filterMap_append, finds, finds]

theorem finds_eq_nil (quiet : ∀ e ∈ es, e.question.isControl = false) : finds es = [] := by
  rw [finds, looks_eq_nil quiet, List.filterMap_nil]

theorem firstFound_eq (es : List (Exchange Ask.Answer)) : firstFound es = (finds es).head? := by
  rw [firstFound, finds, List.head?_filterMap]

theorem finds_pause (policy : RetryPolicy) (left attempt : Nat) :
    finds (pause policy left attempt) = [] := by
  rw [pause]
  split <;> rfl

theorem Settled.values {policy : RetryPolicy} {answers : List (Except ApiError α)}
    {result : Except Problem α} (h : Settled policy answers result) :
    answers.filterMap Except.toOption = result.toOption.toList := by
  obtain ⟨before, last, rfl, failed, same⟩ := h.errors
  rw [List.filterMap_append, List.filterMap_eq_nil_iff.mpr failed, List.nil_append, ← same]
  cases last <;> rfl

theorem finds_describe_ok {next : Client}
    (h : History (setting.describe region client).run es (.ok (next, disk))) :
    finds es = [some disk] := by
  obtain ⟨before, split, failed⟩ := looks_describe_ok h
  rw [finds, split, List.filterMap_append, List.filterMap_eq_nil_iff.mpr failed]
  rfl

/-- A look-up that fails has not found a disk. -/
theorem finds_describe_error {e : OperationError}
    (h : History (setting.describe region client).run es (.error e)) :
    finds es = [] ∨ finds es = [none] := by
  obtain ⟨-, result, settled, same⟩ := looks_describe h
  match result, settled, same with
  | .ok none, settled, _ => exact .inr settled.values
  | .error problem, settled, _ => exact .inl settled.values

/-- The answer to a call that moves the disk. -/
def move? : Exchange Ask.Answer → Option (Except ApiError Unit)
  | ⟨.cloud (.attach _ _ _), reply⟩ => some reply
  | ⟨.cloud (.detach _ _ _), reply⟩ => some reply
  | _ => none

/-- The answers to the calls that move the disk, in turn. -/
def moves (es : List (Exchange Ask.Answer)) : List (Except ApiError Unit) :=
  es.filterMap move?

theorem moves_append (es fs : List (Exchange Ask.Answer)) :
    moves (es ++ fs) = moves es ++ moves fs :=
  List.filterMap_append

theorem moves_eq_nil (still : ∀ e ∈ es, e.question.isMoving = false) : moves es = [] := by
  refine List.filterMap_eq_nil_iff.mpr fun e he => ?_
  have still := still e he
  rw [move?.eq_def]
  split
  case h_1 | h_2 => cases still
  case h_3 => rfl

theorem moves_calls (es : List (Exchange Ask.Answer)) : moves (calls es) = moves es := by
  rw [moves, calls, List.filterMap_filter, moves]
  congr 1
  funext e
  obtain ⟨question, reply⟩ := e
  cases question with
  | cloud question => cases question <;> rfl
  | _ => rfl

/-- A call that moves the disk is no look at it. -/
theorem look?_eq_none {e : Exchange Ask.Answer} {reply : Except ApiError Unit}
    (h : move? e = some reply) : look? e = none := by
  rw [look?.eq_def]
  split
  case h_1 => cases h
  case h_2 => rfl

/-- The call moves the disk. -/
def ControlCall.Moving (call : ControlCall Unit) : Prop :=
  ∀ api reply, move? (call.exchange api reply) = some reply

/-- The answers to a call that moves the disk are the moves. -/
theorem moves_call {call : ControlCall Unit} (moving : call.Moving)
    {outcome : Except OperationError (Client × Unit)}
    (h : History (setting.call call.make client).run es outcome) :
    finds es = [] ∧ ∃ result last, Settled setting.policy (moves es) result ∧
      outcome = conclude setting.context last result := by
  obtain ⟨answers, result, last, answered, settles, same⟩ := settled_of_history call h
  have times : looks (calls es) = [] ∧ moves (calls es) = answers := by
    clear settles
    rw [ControlCall.Answered] at answered
    generalize calls es = times at answered
    induction answered with
    | nil => exact ⟨rfl, rfl⟩
    | @cons e reply _ _ made _ ih =>
      obtain ⟨api, rfl⟩ := made
      exact ⟨List.filterMap_cons_none (look?_eq_none (moving api reply)) |>.trans ih.1,
        (List.filterMap_cons_some (moving api reply)).trans (congrArg (reply :: ·) ih.2)⟩
  rw [looks_calls, moves_calls] at times
  refine ⟨by rw [finds, times.1, List.filterMap_nil], result, last, ?_, same⟩
  rwa [times.2]

/-! ### Steps that may watch in vain -/

/-- All that is granted was found, and none of it had settled. -/
def NeverSettled (settled : Disk → Bool) (granted : Nat) (found : List (Option Disk)) : Prop :=
  found.length = granted ∧ ∀ look ∈ found, ∃ disk, look = some disk ∧ settled disk = false

theorem neverSettled_cons {found : List (Option Disk)} :
    NeverSettled settled (granted + 1) (some disk :: found) ↔
      settled disk = false ∧ NeverSettled settled granted found := by
  simp [NeverSettled, and_left_comm]

theorem FailsAs.errorKind?_ne {x : Step α} {kind : ErrorKind} {outcome : Except OperationError α}
    (fails : FailsAs kinds x) (other : kind ∉ kinds) (h : History x.run es outcome) :
    ¬errorKind? outcome = some kind :=
  fun ended => other (fails.errorKind?_mem h kind ended)

/-- A step fails for want of time exactly if it has watched the disk in vain. -/
def Watches (settled : Disk → Bool) (granted : Nat) (x : Step α) : Prop :=
  ∀ ⦃es outcome⦄, History x.run es outcome →
    (errorKind? outcome = some .timeout ↔ NeverSettled settled granted (finds es))

/-- A step fails for want of time exactly if the disk was moved and it has watched it in vain. -/
def MovesAndWatches (settled : Disk → Bool) (granted : Nat) (x : Step α) : Prop :=
  ∀ ⦃es outcome⦄, History x.run es outcome →
    (errorKind? outcome = some .timeout ↔
      .ok () ∈ moves es ∧ NeverSettled settled granted (finds es))

theorem watches_watch {expected : String} (left attempt : Nat) (client : Client) :
    Watches settled left (setting.watch region expected settled left attempt client) := by
  intro es outcome h
  induction left generalizing attempt client es with
  | zero =>
    rw [Setting.watch] at h
    obtain ⟨rfl, rfl⟩ := history_fail.mp h
    simp [errorKind?, OperationError.kind, Problem.kind, NeverSettled, finds]
  | succ left ih =>
    obtain ⟨look, after, rfl, hd, h⟩ := history_watch_succ.mp h
    rw [finds_append]
    rcases h with ⟨final, rfl, rfl⟩ | ⟨next, disk, rest, found, unsettled, rfl, hw⟩
    · cases ended : look.result with
      | ok found =>
        rw [ended] at hd
        rw [LookUp.isFinal, ended] at final
        simp [finds_describe_ok hd, errorKind?, NeverSettled, final]
      | error e =>
        rw [ended] at hd
        rw [iff_false_left (failsAs_describe.errorKind?_ne (by decide) hd)]
        rcases finds_describe_error hd with found | found <;> simp [found, NeverSettled]
    · rw [found] at hd
      rw [finds_describe_ok hd, finds_append, finds_pause, List.nil_append, List.singleton_append,
        neverSettled_cons, ih _ _ hw, and_iff_right unsettled]

/-- What follows a watch may fail in other ways, and makes no more calls. -/
theorem Watches.bind {x : Step α} {f : α → Step β} (hx : Watches settled granted x)
    (fails : ∀ value, FailsAs kinds (f value)) (other : .timeout ∉ kinds)
    (quiet : ∀ value, Only (·.isControl = false) (f value).run) :
    Watches settled granted (x >>= f) := by
  intro es outcome h
  rcases history_step_bind.mp h with ⟨e, first, rfl⟩ | ⟨before, value, after, rfl, first, later⟩
  · exact hx first
  · have settles : ¬NeverSettled settled granted (finds before) := by
      rw [← hx first]
      simp [errorKind?]
    rw [iff_false_left ((fails value).errorKind?_ne other later), finds_append,
      finds_eq_nil (quiet value later), List.append_nil]
    exact settles

/-- A step that makes no call moves and watches nothing. -/
theorem movesAndWatches_of_quiet {x : Step α} (fails : FailsAs kinds x) (other : .timeout ∉ kinds)
    (quiet : Only (·.isControl = false) x.run) : MovesAndWatches settled granted x := by
  intro es outcome h
  have still : moves es = [] := by
    rw [← moves_calls, calls_eq_nil (quiet h)]
    rfl
  rw [iff_false_left (fails.errorKind?_ne other h), still]
  simp

theorem MovesAndWatches.after {x : Step α} {f : α → Step β} (fails : FailsAs kinds x)
    (other : .timeout ∉ kinds) (quiet : Only (·.isControl = false) x.run)
    (hf : ∀ value, MovesAndWatches settled granted (f value)) :
    MovesAndWatches settled granted (x >>= f) := by
  intro es outcome h
  rcases history_step_bind.mp h with ⟨e, first, rfl⟩ | ⟨before, value, after, rfl, first, later⟩
  · exact movesAndWatches_of_quiet fails other quiet first
  · have still : moves before = [] := by
      rw [← moves_calls, calls_eq_nil (quiet first)]
      rfl
    rw [hf value later, moves_append, still, finds_append, finds_eq_nil (quiet first),
      List.nil_append, List.nil_append]

/-- A watch that follows a call to move the disk. -/
theorem movesAndWatches_call {call : ControlCall Unit} (moving : call.Moving)
    {f : Client × Unit → Step α} (hf : ∀ called, Watches settled granted (f called)) :
    MovesAndWatches settled granted (setting.call call.make client >>= f) := by
  intro es outcome h
  rcases history_step_bind.mp h with ⟨e, first, rfl⟩ | ⟨before, called, after, rfl, first, later⟩
  · obtain ⟨-, result, last, settles, same⟩ := moves_call moving first
    have refused : .ok () ∉ moves es := by
      rw [settles.mem_ok_iff]
      rintro rfl
      cases same
    have prompt : ¬errorKind? (.error e : Except OperationError (Client × Unit)) = some .timeout :=
      failsAs_call.errorKind?_ne (by decide) first
    exact iff_of_false prompt fun both => refused both.1
  · obtain ⟨unseen, result, last, settles, same⟩ := moves_call moving first
    cases result with
    | error problem => cases same
    | ok value =>
    have accepted : .ok () ∈ moves (before ++ after) := by
      rw [moves_append]
      exact List.mem_append_left _ (settles.mem_ok_iff.mpr rfl)
    rw [finds_append, unseen, List.nil_append, and_iff_right accepted]
    exact hf called later

/-! ### The operations -/

/-- What an action waits for. -/
def Action.settles (action : Action) (node : String) (disk : Disk) : Bool :=
  match action with
  | .attach => disk.isSettledOn node
  | .detach => disk.isFreeOf node

/-- The operation has come to wait for its disk. -/
inductive Awaited (request : Request) (es : List (Exchange Ask.Answer)) : Action → Prop where
  /-- The control plane has agreed to move it. -/
  | moved {action : Action} (accepted : .ok () ∈ moves es) : Awaited request es action
  /-- It was found attached already. -/
  | attached {disk : Disk} (found : firstFound es = some (some disk))
      (attached : disk.isAttachedTo request.node = true) : Awaited request es .attach

theorem awaited_detach : Awaited request es .detach ↔ .ok () ∈ moves es := by
  constructor
  · rintro ⟨accepted⟩
    exact accepted
  · exact .moved

/-- An attach of a disk that was found elsewhere waits for it only once it was moved. -/
theorem awaited_attach (found : firstFound es = some (some disk))
    (elsewhere : ¬disk.isAttachedTo request.node = true) :
    Awaited request es .attach ↔ .ok () ∈ moves es := by
  constructor
  · rintro (accepted | ⟨seen, attached⟩)
    · exact accepted
    · obtain rfl := Option.some.inj (Option.some.inj (found.symm.trans seen))
      exact absurd attached elsewhere
  · exact .moved

theorem not_awaited {action : Action} (still : moves es = [])
    (unknown : ∀ disk, some disk ∉ finds es) : ¬Awaited request es action := by
  rintro (accepted | ⟨seen, -⟩)
  · simp [still] at accepted
  · rw [firstFound_eq] at seen
    exact unknown _ (List.mem_of_head? seen)

theorem moves_looking (asks : ∀ e ∈ es, e.question.isLooking) : moves es = [] :=
  moves_eq_nil fun e he => Ask.isMoving_of_isLooking (asks e he)

theorem moves_lookUp {outcome : Except OperationError (Client × Disk)}
    (h : History (lookUp setting region).run es outcome) : moves es = [] :=
  moves_looking (Only.step_bind only_connect (fun _ => only_describe) h)

theorem finds_connect {outcome : Except OperationError Client}
    (h : History setting.connect.run es outcome) : finds es = [] :=
  finds_eq_nil fun e he => Ask.isControl_of_isCredential (asks_connect h e he)

theorem finds_lookUp {next : Client} (h : History (lookUp setting region).run es (.ok (next, disk))) :
    finds es = [some disk] := by
  rcases history_step_bind.mp h with ⟨e, -, same⟩ | ⟨before, client, after, rfl, hc, hd⟩
  · cases same
  · rw [finds_append, finds_connect hc, finds_describe_ok hd, List.nil_append]

/-- An attach that does not look its disk up has not found it. -/
theorem finds_lookUp_error {e : OperationError}
    (h : History (lookUp setting region).run es (.error e)) :
    e.kind ≠ .timeout ∧ ∀ disk, some disk ∉ finds es := by
  rcases history_step_bind.mp h with ⟨e', hc, same⟩ | ⟨before, client, after, rfl, hc, hd⟩
  · obtain rfl := Except.error.inj same
    have own := failsAs_connect hc
    rw [finds_connect hc]
    exact ⟨fun late => absurd (late ▸ own) (by decide), by simp⟩
  · have own := failsAs_describe hd
    refine ⟨fun late => absurd (late ▸ own) (by decide), ?_⟩
    rcases finds_describe_error hd with found | found <;> simp [found, finds_connect hc]

theorem watches_watchAndMount (client : Client) :
    Watches (Action.settles .attach request.node) setting.policy.maxAttempts.toNat
      (watchAndMount setting request target client) :=
  (watches_watch _ 1 client).bind (fun _ => failsAs_mountDevice) (by decide)
    fun _ => isControl_mountDevice

theorem timeout_attach {outcome : Except OperationError Unit}
    (h : History (attach setting request target).run es outcome) :
    errorKind? outcome = some .timeout ↔ Awaited request es .attach ∧
      NeverSettled (Action.settles .attach request.node) setting.policy.maxAttempts.toNat
        (finds es).tail := by
  rw [attach_eq] at h
  rcases history_step_bind.mp h with ⟨e, hl, rfl⟩ | ⟨opening, ⟨client, disk⟩, rest, rfl, hl, hr⟩
  · obtain ⟨prompt, unknown⟩ := finds_lookUp_error hl
    exact iff_of_false (by simpa [errorKind?] using prompt)
      fun both => not_awaited (moves_lookUp hl) unknown both.1
  have found : firstFound (opening ++ rest) = some (some disk) := by
    rw [firstFound_eq, finds_append, finds_lookUp hl]
    rfl
  rw [finds_append, finds_lookUp hl, List.singleton_append, List.tail_cons]
  rw [attachFound] at hr
  split at hr
  case isTrue attached =>
    rw [watches_watchAndMount client hr, and_iff_right (.attached found attached)]
  case isFalse elsewhere =>
    have moving : (ControlCall.attach request.disk request.node).Moving := fun _ _ => rfl
    rw [awaited_attach found elsewhere, moves_append, moves_lookUp hl, List.nil_append]
    exact movesAndWatches_call moving (fun called => watches_watchAndMount called.1) hr

theorem watches_detach (client : Client) :
    Watches (Action.settles .detach request.node) setting.policy.maxAttempts.toNat (do
      let _ ← setting.waitFor request.region "detached" (·.isFreeOf request.node) client
      pure ()) :=
  have never : FailsAs [] (pure () : Step Unit) := failsAs_pure ()
  (watches_watch _ 1 client).bind (fun _ => never) List.not_mem_nil fun _ => only_pure _

theorem movesAndWatches_detachFound {found : Option (Client × Disk)} :
    MovesAndWatches (Action.settles .detach request.node) setting.policy.maxAttempts.toNat
      (detachFound setting request target found) := by
  rcases detachFound_cases setting request target found with
    ⟨unmounts, -⟩ | ⟨client, disk, -, -, held⟩
  · rw [unmounts]
    exact movesAndWatches_of_quiet failsAs_unmountTarget (by decide) isControl_unmountTarget
  rw [held]
  refine MovesAndWatches.after (failsAs_lift _) List.not_mem_nil (Only.lift (only_query rfl))
    fun own => ?_
  refine MovesAndWatches.after failsAs_mountsElsewhere (by decide) isControl_mountsElsewhere
    fun busy => ?_
  split
  case isTrue =>
    refine MovesAndWatches.after failsAs_unmountTarget (by decide) isControl_unmountTarget
      fun _ => ?_
    have moving : (ControlCall.detach request.disk request.node).Moving := fun _ _ => rfl
    exact movesAndWatches_call moving fun called => watches_detach called.1
  case isFalse =>
    exact movesAndWatches_of_quiet (failsAs_fail (List.mem_singleton_self _))
      (by simp [Problem.kind]) (only_pure _)

theorem timeout_detach {outcome : Except OperationError Unit}
    (h : History (detach setting request target).run es outcome) :
    errorKind? outcome = some .timeout ↔ Awaited request es .detach ∧
      NeverSettled (Action.settles .detach request.node) setting.policy.maxAttempts.toNat
        (finds es).tail := by
  rw [detach_eq] at h
  rw [awaited_detach]
  rcases history_step_bind.mp h with ⟨e, hf, rfl⟩ | ⟨opening, found, rest, rfl, hf, hr⟩
  · have prompt : ¬errorKind? (.error e : Except OperationError Unit) = some .timeout := by
      intro late
      have own := (failed_findDisk hf).1
      rw [Option.some.inj late] at own
      exact absurd own (by decide)
    refine iff_of_false prompt fun both => ?_
    rw [moves_looking (only_findDisk hf)] at both
    cases both.1
  · obtain ⟨before, split, failed⟩ := looks_findDisk hf
    have first : finds opening = [found.map Prod.snd] := by
      rw [finds, split, List.filterMap_append, List.filterMap_eq_nil_iff.mpr failed]
      rfl
    rw [movesAndWatches_detachFound hr, moves_append, moves_looking (only_findDisk hf),
      List.nil_append, finds_append, first, List.singleton_append, List.tail_cons]

/-! ### Codes of operations -/

/-- The status of an outcome allows to try again. -/
def Outcome.allowsRetry (outcome : Outcome) : Prop :=
  ∃ status, outcome.status = .error status ∧ status.code.allowsRetry

theorem allowsRetry_ofResult {result : Except OperationError Unit} :
    (Outcome.ofResult result).allowsRetry ↔ errorKind? result = some .conflict ∨
      errorKind? result = some .transport ∨ errorKind? result = some .timeout := by
  cases result with
  | ok value => simp [Outcome.allowsRetry, Outcome.ofResult, Outcome.status, errorKind?]
  | error e =>
    have agrees := agrees_ofResult e
    rw [Outcome.allowsRetry, agrees.status]
    simp only [Except.error.injEq, exists_eq_left', agrees.code, isRetryable_iff_kind, errorKind?,
      Option.some.injEq]
    exact or_congr_right or_comm

/-- What an outcome says is what its error says: whether to try again, by the outcome and by the code,
and in which words. In any surroundings an attach or a detach ends with a code that allows to try again
exactly if it ends with a call that found the control plane busy at every attempt, or with one that
could not be reached right after the client was to blame, or if it has come to wait for its disk and
none of the looks that are granted has found it settled. -/
theorem retry_allowed_iff_exhausted :
    (∀ e : OperationError, Agrees e (.ofResult (.error e))) ∧
    ∀ (σ : Type) (answer : (q : Ask) → σ → Ask.Answer q × σ) (s : σ) (attacher : Attacher)
      (action : Action) (request : Request) (target : Path),
      let run := attacher.execute action request target
      let es := (run.moments answer s).map Prod.snd
      (run.run answer s).1.allowsRetry ↔
        EndsBusy attacher.policy (failures es) ∨ EndsUnreachable (failures es) ∨
          (Awaited request es action ∧ NeverSettled (action.settles request.node)
            attacher.policy.maxAttempts.toNat (finds es).tail) := by
  refine ⟨agrees_ofResult, fun σ answer s attacher action request target => ?_⟩
  intro run es
  have history : History run es (run.run answer s).1 := (course_self answer run s).history
  obtain ⟨performed, result, after, split, hp, ended⟩ := history_bind.mp history
  obtain ⟨rfl, outcome⟩ := history_pure.mp ended
  rw [List.append_nil] at split
  rw [split, outcome, allowsRetry_ofResult]
  cases action with
  | attach =>
    have told := tellsFailures_attach hp
    rw [← told.busy, ← told.unreachable, timeout_attach hp]
    rfl
  | detach =>
    have told := tellsFailures_detach hp
    rw [← told.busy, ← told.unreachable, timeout_detach hp]
    rfl

end BlockVolume.Operation
