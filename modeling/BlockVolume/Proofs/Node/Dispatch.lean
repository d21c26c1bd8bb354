import BlockVolume.Node.Dispatch
import BlockVolume.Proofs.Node.Discipline
import Mathlib.Data.List.Induction
/-!
What one move of calls with host jobs can do, and what holds after all moves.

`Step` lists what moves do. The worker changes neither the locks nor the order of the jobs, and the
call behind a job, if it still goes on, stands at the question that the job answers — so what
`Traffic` tells of calls and `Guarded` of their locks is true of calls with host jobs too (`Sound`).
-/

namespace BlockVolume.Node

open BlockVolume.Lock (Table)
open BlockVolume.Mount (Queue)
open BlockVolume.Program

variable {σ μ ι α : Type} {program : ι → NodeProgram α} {cloud : CloudModel σ}
  {mounter : MounterModel μ}

/-! ### What a move does to the locks -/

namespace Traffic

variable {traffic next : Traffic σ μ ι α} {number : Nat} {key : LockKey}

/-- A call asks for a lock. -/
structure Acquires (traffic : Traffic σ μ ι α) (number : Nat) (key : LockKey)
    (next : Traffic σ μ ι α) : Prop where
  here : ∃ order rest, traffic.calls[number]? = some ⟨order, .going (.ask (.acquire key) rest)⟩
  locks : next.world.locks = (traffic.world.locks.poll number).start number key
  asked : next.acquires = traffic.acquires ++ [(number, key)]

/-- A call has no other grip than before, but that it may notice that it was handed its lock. -/
def Eased (traffic next : Traffic σ μ ι α) (number : Nat) : Prop :=
  ∀ key held, next.world.locks.grip number = some (key, held) →
    ∃ before, traffic.world.locks.grip number = some (key, before) ∧ (before = true → held = true)

/-- No call asks for a lock, or gets one that it had not asked for. -/
structure Loosens (traffic next : Traffic σ μ ι α) : Prop where
  eased : ∀ number, Eased traffic next number
  asked : next.acquires = traffic.acquires

theorem Loosens.of_locks (same : next.world.locks = traffic.world.locks)
    (asked : next.acquires = traffic.acquires) : Loosens traffic next where
  eased _ _ _ hg := ⟨_, same ▸ hg, id⟩
  asked := asked

theorem loosens_polled (traffic : Traffic σ μ ι α) (number : Nat) :
    Loosens traffic { traffic with world := traffic.world.polled number } where
  eased _ _ _ := Table.grip_of_poll
  asked := rfl

/-- Where a call asks for a lock, the others keep theirs. -/
theorem Acquires.eased (h : Acquires traffic number key next) {other : Nat} (ne : other ≠ number) :
    Eased traffic next other := by
  intro key held hg
  rw [h.locks, Table.grip_start_of_ne ne] at hg
  exact Table.grip_of_poll hg

/-- In a move one call asks for a lock, or none does. -/
theorem locks_step (guarded : traffic.Guarded) (moved : Step program cloud mounter traffic next) :
    (∃ number key, Acquires traffic number key next) ∨ Loosens traffic next := by
  cases moved with
  | pass ms => exact Or.inr (.of_locks rfl rfl)
  | begin order => exact Or.inr (.of_locks rfl rfl)
  | finish => exact Or.inr ⟨fun _ _ _ => Table.grip_of_poll, rfl⟩
  | @giveUp number =>
    refine Or.inr ⟨fun other _ held hg => ⟨held, ?_, id⟩, rfl⟩
    by_cases own : other = number
    · rw [own, Table.grip_giveUp] at hg
      cases hg
    · rwa [Table.grip_cancel_of_ne own, Table.grip_release_of_ne own] at hg
  | @ask number order question rest reply wait world here free answered =>
    have polled := guarded.polled number
    cases lock : question.isLock with
    | false =>
      have same := locks_answer lock cloud mounter number (traffic.world.polled number)
      rw [answered] at same
      refine Or.inr ⟨fun other key held hg => ?_, acquires_snoc _ _ _ _ _ lock⟩
      rw [same] at hg
      exact Table.grip_of_poll hg
    | true =>
      cases question with
      | acquire key =>
        obtain ⟨-, rfl⟩ := Prod.mk.inj (Prod.mk.inj answered).2
        exact Or.inl ⟨number, key, ⟨order, rest, here⟩, rfl, acquires_snoc_acquire ..⟩
      | release key =>
        obtain ⟨-, rfl⟩ := Prod.mk.inj (Prod.mk.inj answered).2
        refine Or.inr ⟨fun other key held hg => ?_, acquires_snoc_release ..⟩
        by_cases own : other = number
        · have gone : ((traffic.world.polled number).locks.release number).grip number = none :=
            Table.grip_release fun key waits => by
              rw [(isWaiting_iff polled.formed).mpr ⟨key, waits⟩] at free
              cases free
          rw [own, gone] at hg
          cases hg
        · rw [Table.grip_release_of_ne own] at hg
          exact Table.grip_of_poll hg
      | _ => cases lock

/-- A call that goes on and has an exchange then had come to its question. -/
theorem asks_of_goOn {other : Nat} {e : Exchange Ask.Answer}
    (grown : (traffic.goOn cloud mounter number).log = traffic.log ++ [(other, e)]) :
    ∃ order rest, traffic.calls[number]? = some ⟨order, .going (.ask e.question rest)⟩ := by
  have same (h : traffic.log = traffic.log ++ [(other, e)]) : False :=
    List.cons_ne_nil _ _ (List.self_eq_append_right.mp h)
  rw [goOn] at grown
  split at grown
  case h_2 => cases same grown
  case h_1 order rest here =>
    dsimp only at grown
    split at grown
    · cases same grown
    · cases rest with
      | done result => cases same grown
      | ask question rest =>
        obtain ⟨-, rfl⟩ := Prod.mk.inj (List.cons.inj (List.append_cancel_left grown)).1
        exact ⟨order, rest, here⟩

theorem log_giveUp (traffic : Traffic σ μ ι α) (number : Nat) :
    (traffic.giveUp number).log = traffic.log := by
  rw [giveUp]
  split <;> rfl

/-- Who waits for a lock has waited for it before. -/
theorem Eased.isWaiting (h : Eased traffic next number) (guarded : traffic.Guarded)
    (guarded' : next.Guarded) (free : traffic.world.isWaiting number = false) :
    next.world.isWaiting number = false := by
  refine Bool.eq_false_iff.mpr fun waits => ?_
  obtain ⟨key, hg⟩ := (isWaiting_iff guarded'.formed).mp waits
  obtain ⟨before, hb, grown⟩ := h key false hg
  cases before with
  | true => cases grown rfl
  | false =>
    rw [(isWaiting_iff guarded.formed).mpr ⟨key, hb⟩] at free
    cases free

end Traffic

/-! ### What a move does to a call -/

namespace Traffic

variable {traffic next : Traffic σ μ ι α} {number : Nat} {order : ι} {left : NodeProgram α}
  {question : MountAsk} {rest : question.Answer → NodeProgram α}

theorem answerMounter_of_going (cloud : CloudModel σ) (mounter : MounterModel μ)
    (here : traffic.calls[number]? = some ⟨order, .going left⟩) :
    traffic.answerMounter cloud mounter number question rest =
      { world := (traffic.world.answer cloud mounter number (.mounter question)).2.2
        calls := traffic.calls.set number
          ⟨order, .going (rest (traffic.world.answer cloud mounter number (.mounter question)).1)⟩
        log := traffic.log ++ [(number, ⟨.mounter question,
          (traffic.world.answer cloud mounter number (.mounter question)).1⟩)] } := by
  simp only [answerMounter, here]

/-- Nobody gets the answer of a call that is over. -/
theorem answerMounter_of_over (cloud : CloudModel σ) (mounter : MounterModel μ)
    (gone : ¬∃ order left, traffic.calls[number]? = some ⟨order, .going left⟩) :
    traffic.answerMounter cloud mounter number question rest =
      { traffic with
        world := (traffic.world.answer cloud mounter number (.mounter question)).2.2 } := by
  rw [answerMounter]
  dsimp only
  split
  case h_1 here => exact absurd ⟨_, _, here⟩ gone
  case h_2 => rfl

/-- What an answer of the mounter changes is the call that gets it. -/
structure Answered (traffic : Traffic σ μ ι α) (number : Nat) (next : Traffic σ μ ι α) : Prop where
  locks : next.world.locks = traffic.world.locks
  acquires : next.acquires = traffic.acquires
  length : next.calls.length = traffic.calls.length
  others : ∀ other, other ≠ number →
    next.calls[other]? = traffic.calls[other]? ∧ next.past other = traffic.past other
  own : ∀ order left, next.calls[number]? = some ⟨order, .going left⟩ →
    ∃ e ∈ next.past number, e.question.isMounter = true

theorem answered_answerMounter (cloud : CloudModel σ) (mounter : MounterModel μ) (number : Nat)
    (rest : question.Answer → NodeProgram α) (traffic : Traffic σ μ ι α) :
    Answered traffic number (traffic.answerMounter cloud mounter number question rest) := by
  by_cases going : ∃ order left, traffic.calls[number]? = some ⟨order, .going left⟩
  case pos =>
    obtain ⟨order, left, here⟩ := going
    rw [answerMounter_of_going cloud mounter here]
    refine ⟨rfl, acquires_snoc _ _ _ _ _ rfl, List.length_set, fun other ne => ⟨?_, ?_⟩, ?_⟩
    · exact List.getElem?_set_ne ne.symm
    · rw [past_snoc, if_neg ne.symm, List.append_nil]
      rfl
    · intro order left _
      exact ⟨_, mem_past.mpr (List.mem_append_right _ List.mem_cons_self), rfl⟩
  case neg =>
    rw [answerMounter_of_over cloud mounter going]
    exact ⟨rfl, rfl, rfl, fun _ _ => ⟨rfl, rfl⟩,
      fun order left here => absurd ⟨order, left, here⟩ going⟩

/-- The mounter's answer for a call, if it goes on, that waits for it. -/
theorem kept_answerMounter (cloud : CloudModel σ) (mounter : MounterModel μ)
    (tracked : Tracked program traffic) (guarded : Guarded traffic)
    (disciplined : ∀ order, Disciplined (program order))
    (stands : ∀ order left, traffic.calls[number]? = some ⟨order, .going left⟩ →
      left = .ask (.mounter question) rest ∧ traffic.world.isWaiting number = false) :
    Tracked program (traffic.answerMounter cloud mounter number question rest) ∧
      Guarded (traffic.answerMounter cloud mounter number question rest) := by
  by_cases going : ∃ order left, traffic.calls[number]? = some ⟨order, .going left⟩
  case pos =>
    obtain ⟨order, left, here⟩ := going
    obtain ⟨rfl, free⟩ := stands order left here
    have answered : traffic.world.answer cloud mounter number (.mounter question) =
      ((traffic.world.answer cloud mounter number (.mounter question)).1, none,
        (traffic.world.answer cloud mounter number (.mounter question)).2.2) := rfl
    rw [answerMounter_of_going cloud mounter here]
    exact ⟨tracked.ask here _ _, guarded.ask tracked (disciplined order) here free answered⟩
  case neg =>
    rw [answerMounter_of_over cloud mounter going]
    exact ⟨⟨tracked.along, tracked.known⟩, guarded.formed, guarded.queued, guarded.grips,
      guarded.turns, guarded.ordered⟩

/-- A call that goes on after a move stood there before, or got the answer to its question. -/
theorem Step.going (moved : Step program cloud mounter traffic next)
    (old : number < traffic.calls.length)
    (here : next.calls[number]? = some ⟨order, .going left⟩) :
    (traffic.calls[number]? = some ⟨order, .going left⟩ ∧ next.past number = traffic.past number) ∨
      ∃ (question : Ask) (rest : question.Answer → NodeProgram α) (reply : question.Answer),
        traffic.calls[number]? = some ⟨order, .going (.ask question rest)⟩ ∧ left = rest reply ∧
          next.log = traffic.log ++ [(number, ⟨question, reply⟩)] := by
  cases moved with
  | pass ms => exact Or.inl ⟨here, rfl⟩
  | begin order =>
    rw [List.getElem?_append_left old] at here
    exact Or.inl ⟨here, rfl⟩
  | finish =>
    rcases getElem?_set_some here with ⟨-, heq⟩ | ⟨-, here⟩
    · cases heq
    · exact Or.inl ⟨here, rfl⟩
  | giveUp =>
    rcases getElem?_set_some here with ⟨-, heq⟩ | ⟨-, here⟩
    · cases heq
    · exact Or.inl ⟨here, rfl⟩
  | @ask caller _ question rest reply _ _ before =>
    rcases getElem?_set_some here with ⟨rfl, heq⟩ | ⟨ne, here⟩
    · cases heq
      exact Or.inr ⟨question, rest, reply, before, rfl, rfl⟩
    · refine Or.inl ⟨here, ?_⟩
      rw [past_snoc, if_neg ne.symm, List.append_nil]
      rfl

theorem Step.length_calls (moved : Step program cloud mounter traffic next) :
    traffic.calls.length ≤ next.calls.length := by
  cases moved <;> simp

/-- Exchanges are not forgotten. -/
theorem Step.log_prefix (moved : Step program cloud mounter traffic next) :
    traffic.log <+: next.log := by
  cases moved with
  | ask => exact List.prefix_append _ _
  | _ => exact List.prefix_rfl

end Traffic

/-! ### Moves -/

namespace Dispatch

/-- The callers of all jobs that were handed in, in order: first those of the jobs that were run, then
those of the jobs in the queue. -/
def handedIn (dispatch : Dispatch σ μ ι α) : List Nat :=
  dispatch.ran ++ dispatch.waiting.map Mount.Job.caller

variable {dispatch next : Dispatch σ μ ι α} {number : Nat}

/-- What a move can do to the calls and the jobs. -/
inductive Step (program : ι → NodeProgram α) (cloud : CloudModel σ) (mounter : MounterModel μ)
    (dispatch next : Dispatch σ μ ι α) : Prop where
  | idle (host : next.host = dispatch.host) (waiting : next.waiting = dispatch.waiting)
      (ran : next.ran = dispatch.ran)
  /-- A call moves, and does not ask the mounter. -/
  | call (moved : Traffic.Step program cloud mounter dispatch.host next.host)
      (direct : ∀ number question reply,
        next.host.log ≠ dispatch.host.log ++ [(number, ⟨.mounter question, reply⟩)])
      (waiting : next.waiting = dispatch.waiting) (ran : next.ran = dispatch.ran)
  | handIn {number : Nat} {order : ι} {question : MountAsk}
      {rest : question.Answer → NodeProgram α}
      (here : dispatch.host.calls[number]? = some ⟨order, .going (.ask (.mounter question) rest)⟩)
      (fresh : number ∉ dispatch.waiting.map Mount.Job.caller)
      (free : (dispatch.host.world.polled number).isWaiting number = false)
      (host : next.host = { dispatch.host with world := dispatch.host.world.polled number })
      (waiting : next.waiting = dispatch.waiting ++ [hostJob cloud mounter number question rest])
      (ran : next.ran = dispatch.ran)
  | work {job : Mount.Job (Traffic σ μ ι α) Unit} (front : dispatch.waiting = job :: next.waiting)
      (host : next.host = (job.run dispatch.host).2) (ran : next.ran = dispatch.ran ++ [job.caller])

theorem handedIn_of_quiet (waiting : next.waiting = dispatch.waiting) (ran : next.ran = dispatch.ran) :
    next.handedIn = dispatch.handedIn := by
  rw [handedIn, handedIn, waiting, ran]

theorem handedIn_of_handIn {job : Mount.Job (Traffic σ μ ι α) Unit}
    (waiting : next.waiting = dispatch.waiting ++ [job]) (ran : next.ran = dispatch.ran) :
    next.handedIn = dispatch.handedIn ++ [job.caller] := by
  rw [handedIn, handedIn, waiting, ran, List.map_append, List.append_assoc]
  rfl

/-- A job that is run stays among those that were handed in. -/
theorem handedIn_of_work {job : Mount.Job (Traffic σ μ ι α) Unit}
    (front : dispatch.waiting = job :: next.waiting) (ran : next.ran = dispatch.ran ++ [job.caller]) :
    next.handedIn = dispatch.handedIn := by
  rw [handedIn, handedIn, front, ran, List.append_assoc]
  rfl

theorem awaits_eq_false :
    dispatch.awaits number = false ↔ number ∉ dispatch.waiting.map Mount.Job.caller := by
  simp [awaits]

/-- A call that goes on and does not ask the mounter goes on as it does without host jobs. -/
theorem goOn_eq (cloud : CloudModel σ) (mounter : MounterModel μ)
    (other : ¬∃ order question rest,
      dispatch.host.calls[number]? = some ⟨order, .going (.ask (.mounter question) rest)⟩) :
    dispatch.goOn cloud mounter number =
      { dispatch with host := dispatch.host.goOn cloud mounter number } := by
  rw [goOn]
  split
  case h_1 here => exact absurd ⟨_, _, _, here⟩ other
  case h_2 => rfl

theorem goOn_mounter {order : ι} {question : MountAsk} {rest : question.Answer → NodeProgram α}
    (cloud : CloudModel σ) (mounter : MounterModel μ)
    (here : dispatch.host.calls[number]? = some ⟨order, .going (.ask (.mounter question) rest)⟩) :
    dispatch.goOn cloud mounter number =
      if dispatch.awaits number || (dispatch.host.world.polled number).isWaiting number then dispatch
      else
        Queue.step
          { dispatch with
            host := { dispatch.host with world := dispatch.host.world.polled number } }
          (.submit (hostJob cloud mounter number question rest)) := by
  simp only [goOn, here]

theorem step_goOn (program : ι → NodeProgram α) (cloud : CloudModel σ) (mounter : MounterModel μ)
    (dispatch : Dispatch σ μ ι α) (number : Nat) :
    Step program cloud mounter dispatch (dispatch.goOn cloud mounter number) := by
  by_cases asks : ∃ order question rest,
      dispatch.host.calls[number]? = some ⟨order, .going (.ask (.mounter question) rest)⟩
  case pos =>
    obtain ⟨order, question, rest, here⟩ := asks
    rw [goOn_mounter cloud mounter here]
    split
    case isTrue => exact .idle rfl rfl rfl
    case isFalse free =>
      obtain ⟨fresh, free⟩ := not_or.mp (Bool.or_eq_true _ _ ▸ free)
      exact .handIn here (awaits_eq_false.mp (Bool.eq_false_iff.mpr fresh))
        (Bool.eq_false_iff.mpr free) rfl rfl rfl
  case neg =>
    rw [goOn_eq cloud mounter asks]
    rcases Traffic.step_cases program cloud mounter dispatch.host (.goOn number) with same | moved
    · exact .idle same rfl rfl
    · refine .call moved (fun other question reply grown => ?_) rfl rfl
      obtain ⟨order, rest, here⟩ := Traffic.asks_of_goOn grown
      exact asks ⟨order, question, rest, here⟩

theorem step_step (program : ι → NodeProgram α) (cloud : CloudModel σ) (mounter : MounterModel μ)
    (dispatch : Dispatch σ μ ι α) (move : DispatchMove ι) :
    Step program cloud mounter dispatch (dispatch.step program cloud mounter move) := by
  -- a move that asks nothing
  have quiet (move : Move ι) (silent : (dispatch.host.step program cloud mounter move).log =
        dispatch.host.log) {next : Dispatch σ μ ι α}
      (host : next.host = dispatch.host.step program cloud mounter move)
      (waiting : next.waiting = dispatch.waiting) (ran : next.ran = dispatch.ran) :
      Step program cloud mounter dispatch next := by
    rcases Traffic.step_cases program cloud mounter dispatch.host move with same | moved
    · exact .idle (host.trans same) waiting ran
    · refine .call (host ▸ moved) (fun _ _ _ grown => ?_) waiting ran
      rw [host, silent] at grown
      exact List.cons_ne_nil _ _ (List.self_eq_append_right.mp grown)
  cases move with
  | call move =>
    cases move with
    | goOn number => exact step_goOn program cloud mounter dispatch number
    | giveUp number => exact quiet (.giveUp number) (Traffic.log_giveUp _ _) rfl rfl rfl
    | begin order => exact quiet (.begin order) rfl rfl rfl rfl
    | pass ms => exact quiet (.pass ms) rfl rfl rfl rfl
  | work =>
    rw [step, Queue.step]
    split
    case h_1 => exact .idle rfl rfl rfl
    case h_2 job rest front => exact .work front rfl rfl

/-- What holds at first and is kept by each step holds after all moves. -/
theorem foldl_induction {P : Dispatch σ μ ι α → Prop} (start : P dispatch)
    (step : ∀ dispatch next, P dispatch → Step program cloud mounter dispatch next → P next)
    (moves : List (DispatchMove ι)) :
    P (moves.foldl (Dispatch.step program cloud mounter) dispatch) := by
  induction moves generalizing dispatch with
  | nil => exact start
  | cons move rest ih => exact ih (step _ _ start (step_step program cloud mounter dispatch move))

theorem run_append (program : ι → NodeProgram α) (cloud : CloudModel σ) (mounter : MounterModel μ)
    (moves later : List (DispatchMove ι)) (world : World σ μ) :
    run program cloud mounter (moves ++ later) world =
      later.foldl (step program cloud mounter) (run program cloud mounter moves world) :=
  List.foldl_append

/-! ### The worker -/

theorem step_work_of_idle (program : ι → NodeProgram α) (cloud : CloudModel σ)
    (mounter : MounterModel μ) (idle : dispatch.waiting = []) :
    dispatch.step program cloud mounter .work = dispatch := by
  rw [step, Queue.step, idle]

theorem step_work_of_front (program : ι → NodeProgram α) (cloud : CloudModel σ)
    (mounter : MounterModel μ) {job : Mount.Job (Traffic σ μ ι α) Unit}
    {rest : List (Mount.Job (Traffic σ μ ι α) Unit)} (front : dispatch.waiting = job :: rest) :
    let after := dispatch.step program cloud mounter .work
    after.host = (job.run dispatch.host).2 ∧ after.waiting = rest ∧
      after.ran = dispatch.ran ++ [job.caller] := by
  rw [step, Queue.step, front]
  exact ⟨rfl, rfl, rfl⟩

/-- Where the queue is empty, a job that is run as soon as it is handed in is the answer to its
question. -/
theorem goOn_work (program : ι → NodeProgram α) (cloud : CloudModel σ) (mounter : MounterModel μ)
    (idle : dispatch.waiting = []) (number : Nat) :
    ((dispatch.goOn cloud mounter number).step program cloud mounter .work).host =
        dispatch.host.goOn cloud mounter number ∧
      ((dispatch.goOn cloud mounter number).step program cloud mounter .work).waiting = [] := by
  by_cases asks : ∃ order question rest,
      dispatch.host.calls[number]? = some ⟨order, .going (.ask (.mounter question) rest)⟩
  case pos =>
    obtain ⟨order, question, rest, here⟩ := asks
    have fresh : dispatch.awaits number = false := by simp [awaits, idle]
    rw [goOn_mounter cloud mounter here, fresh, Bool.false_or]
    split
    case isTrue waits =>
      rw [step_work_of_idle program cloud mounter idle]
      exact ⟨by simp [Traffic.goOn, here, waits], idle⟩
    case isFalse free =>
      have answered : (dispatch.host.world.polled number).answer cloud mounter number
        (.mounter question) = (_, none, _) := rfl
      have front : (Queue.step
          { dispatch with
            host := { dispatch.host with world := dispatch.host.world.polled number } }
          (.submit (hostJob cloud mounter number question rest))).waiting =
            [hostJob cloud mounter number question rest] := by
        simp [Queue.step, idle]
      obtain ⟨host, waiting, -⟩ := step_work_of_front program cloud mounter front
      refine ⟨?_, waiting⟩
      rw [host, Traffic.goOn_ask here (Bool.eq_false_iff.mpr free) answered]
      exact Traffic.answerMounter_of_going cloud mounter here
  case neg =>
    rw [goOn_eq cloud mounter asks, step_work_of_idle program cloud mounter (by exact idle)]
    exact ⟨rfl, idle⟩

/-- A move and the worker's after it are together the move as it is without host jobs. -/
theorem step_work (program : ι → NodeProgram α) (cloud : CloudModel σ) (mounter : MounterModel μ)
    (idle : dispatch.waiting = []) (move : Move ι) :
    ((dispatch.step program cloud mounter (.call move)).step program cloud mounter .work).host =
        dispatch.host.step program cloud mounter move ∧
      ((dispatch.step program cloud mounter (.call move)).step program cloud mounter .work).waiting =
        [] := by
  cases move with
  | goOn number => exact goOn_work program cloud mounter idle number
  | begin order | giveUp number | pass ms =>
    rw [step_work_of_idle program cloud mounter (by exact idle)]
    exact ⟨rfl, idle⟩

/-- Calls whose jobs are run as soon as they are handed in go on as calls without host jobs. -/
theorem host_run_flatMap (program : ι → NodeProgram α) (cloud : CloudModel σ)
    (mounter : MounterModel μ) (moves : List (Move ι)) (world : World σ μ) :
    let dispatch : Dispatch σ μ ι α :=
      run program cloud mounter (moves.flatMap fun move => [.call move, .work]) world
    dispatch.host = Traffic.run program cloud mounter moves world ∧ dispatch.waiting = [] := by
  induction moves using List.reverseRecOn with
  | nil => exact ⟨rfl, rfl⟩
  | append_singleton moves move ih =>
    obtain ⟨host, idle⟩ := ih
    rw [List.flatMap_append, List.flatMap_singleton, run_append, Traffic.run_append, ← host]
    exact step_work program cloud mounter idle move

/-! ### What holds after all moves -/

/-- A program asks for a lock once, and before it asks the mounter; it asks the mounter only for the
lock that it asked for. -/
structure Locking (p : NodeProgram α) : Prop extends Disciplined p where
  once : ∀ {es key next}, Reaches p es (.ask (.acquire key) next) →
    ∀ e ∈ es, e.question.isLock = false ∧ e.question.isMounter = false
  job : ∀ {es question next}, Reaches p es (.ask (.mounter question) next) →
    ∃ key, claimed es = some key ∧ ∀ other, ⟨.acquire other, ()⟩ ∈ es → other = key

/-- The calls are as they are without host jobs. There is one job of a call at most in the queue, and
such a call, if it is not given up, waits for the answer. Jobs are handed in as the locks tell. -/
structure Sound (program : ι → NodeProgram α) (cloud : CloudModel σ) (mounter : MounterModel μ)
    (dispatch : Dispatch σ μ ι α) : Prop where
  tracked : dispatch.host.Tracked program
  guarded : dispatch.host.Guarded
  once : (dispatch.waiting.map Mount.Job.caller).Nodup
  asked : ∀ job ∈ dispatch.waiting, ∃ question rest,
    job = hostJob cloud mounter job.caller question rest ∧
      ∀ order left, dispatch.host.calls[job.caller]? = some ⟨order, .going left⟩ →
        left = .ask (.mounter question) rest ∧ dispatch.host.world.isWaiting job.caller = false
  answered : ∀ number ∈ dispatch.ran, ∀ order left,
    dispatch.host.calls[number]? = some ⟨order, .going left⟩ →
      ∃ e ∈ dispatch.host.past number, e.question.isMounter = true
  known : ∀ number ∈ dispatch.handedIn, number < dispatch.host.calls.length
  ordered : Ordered dispatch.host.world.locks dispatch.host.acquires dispatch.handedIn

variable {key : LockKey}

/-- A call that is to get an answer does not ask for a lock. -/
theorem Sound.not_acquires (h : Sound program cloud mounter dispatch)
    (locking : ∀ order, Locking (program order)) {after : Traffic σ μ ι α}
    (acquires : Traffic.Acquires dispatch.host number key after) : number ∉ dispatch.handedIn := by
  obtain ⟨order, rest, here⟩ := acquires.here
  intro handed
  rcases List.mem_append.mp handed with ran | waits
  · obtain ⟨e, he, job⟩ := h.answered number ran order _ here
    have quiet := ((locking order).once (h.tracked.along number _ here) e he).2
    rw [job] at quiet
    cases quiet
  · obtain ⟨job, hj, rfl⟩ := List.mem_map.mp waits
    obtain ⟨question, rest', -, stands⟩ := h.asked job hj
    cases (stands order _ here).1

/-- A call that asks the mounter has a lock, and asked for no other. -/
theorem Sound.claims (h : Sound program cloud mounter dispatch)
    (locking : ∀ order, Locking (program order)) {order : ι} {question : MountAsk}
    {rest : question.Answer → NodeProgram α}
    (here : dispatch.host.calls[number]? = some ⟨order, .going (.ask (.mounter question) rest)⟩) :
    ∃ key, dispatch.host.claim number = some key ∧
      ∀ other, (number, other) ∈ dispatch.host.acquires → other = key := by
  obtain ⟨key, claims, one⟩ := (locking order).job (h.tracked.along number _ here)
  refine ⟨key, ?_, fun other asked => one other (Traffic.mem_acquires.mp asked)⟩
  rw [Traffic.claim, here, ← claims]

/-- A call moves, and does not ask the mounter. -/
theorem Sound.call (h : Sound program cloud mounter dispatch)
    (locking : ∀ order, Locking (program order))
    (moved : Traffic.Step program cloud mounter dispatch.host next.host)
    (direct : ∀ number question reply,
      next.host.log ≠ dispatch.host.log ++ [(number, ⟨.mounter question, reply⟩)])
    (waiting : next.waiting = dispatch.waiting) (ran : next.ran = dispatch.ran) :
    Sound program cloud mounter next := by
  have guarded := h.guarded.step h.tracked (fun order => (locking order).toDisciplined) moved
  have same := handedIn_of_quiet waiting ran
  have locks := Traffic.locks_step h.guarded moved
  constructor
  case tracked => exact h.tracked.step moved
  case guarded => exact guarded
  case once => exact waiting ▸ h.once
  case asked =>
    intro job hj
    rw [waiting] at hj
    obtain ⟨question, rest, form, stands⟩ := h.asked job hj
    refine ⟨question, rest, form, fun order left here => ?_⟩
    have old : job.caller ∈ dispatch.handedIn :=
      List.mem_append_right _ (List.mem_map_of_mem hj)
    -- the caller has no answer yet, so it cannot have moved on
    rcases moved.going (h.known _ old) here with ⟨before, -⟩ | ⟨asked, next, reply, before, -, grown⟩
    · obtain ⟨rfl, free⟩ := stands order left before
      refine ⟨rfl, Traffic.Eased.isWaiting ?_ h.guarded guarded free⟩
      rcases locks with ⟨number, key, acquires⟩ | loosens
      · refine acquires.eased ?_
        rintro rfl
        exact h.not_acquires locking acquires old
      · exact loosens.eased _
    · cases (stands order _ before).1
      exact absurd grown (direct _ _ _)
  case answered =>
    intro number hn order left here
    rw [ran] at hn
    rcases moved.going (h.known _ (List.mem_append_left _ hn)) here with
      ⟨before, past⟩ | ⟨asked, rest, reply, before, -, grown⟩
    · rw [past]
      exact h.answered number hn order left before
    · obtain ⟨e, he, job⟩ := h.answered number hn order _ before
      exact ⟨e, Traffic.mem_past.mpr (moved.log_prefix.subset (Traffic.mem_past.mp he)), job⟩
  case known =>
    intro number hn
    rw [same] at hn
    exact Nat.lt_of_lt_of_le (h.known number hn) moved.length_calls
  case ordered =>
    rw [same]
    rcases locks with ⟨number, key, acquires⟩ | loosens
    · rw [acquires.locks, acquires.asked]
      exact (h.ordered.poll number).start (h.not_acquires locking acquires)
    · rw [loosens.asked]
      exact h.ordered.loosen fun hg => loosens.eased _ _ _ hg

/-- A call hands a job in. -/
theorem Sound.handIn (h : Sound program cloud mounter dispatch)
    (locking : ∀ order, Locking (program order)) {order : ι} {question : MountAsk}
    {rest : question.Answer → NodeProgram α}
    (here : dispatch.host.calls[number]? = some ⟨order, .going (.ask (.mounter question) rest)⟩)
    (fresh : number ∉ dispatch.waiting.map Mount.Job.caller)
    (free : (dispatch.host.world.polled number).isWaiting number = false)
    (host : next.host = { dispatch.host with world := dispatch.host.world.polled number })
    (waiting : next.waiting = dispatch.waiting ++ [hostJob cloud mounter number question rest])
    (ran : next.ran = dispatch.ran) : Sound program cloud mounter next := by
  have polled := h.guarded.polled number
  have longer : next.handedIn = dispatch.handedIn ++ [number] := handedIn_of_handIn waiting ran
  constructor
  case tracked => exact host ▸ ⟨h.tracked.along, h.tracked.known⟩
  case guarded => exact host ▸ polled
  case once =>
    rw [waiting, List.map_append]
    exact h.once.append (List.nodup_singleton _) (List.disjoint_singleton.mpr fresh)
  case asked =>
    intro job hj
    rw [waiting] at hj
    rw [host]
    rcases List.mem_append.mp hj with hj | hj
    · obtain ⟨question, rest, form, stands⟩ := h.asked job hj
      refine ⟨question, rest, form, fun order left here => ?_⟩
      obtain ⟨rfl, free⟩ := stands order left here
      exact ⟨rfl, ((Traffic.loosens_polled _ _).eased _).isWaiting h.guarded polled free⟩
    · obtain rfl := List.mem_singleton.mp hj
      refine ⟨question, rest, rfl, fun order left stands => ?_⟩
      cases here.symm.trans stands
      exact ⟨rfl, free⟩
  case answered =>
    intro other ho
    rw [host]
    exact h.answered other (ran ▸ ho)
  case known =>
    intro other ho
    rw [host]
    rw [longer] at ho
    rcases List.mem_append.mp ho with ho | ho
    · exact h.known other ho
    · rw [List.mem_singleton.mp ho]
      exact (List.getElem?_eq_some_iff.mp here).1
  case ordered =>
    obtain ⟨key, claim, one⟩ := h.claims locking here
    rw [longer, host]
    exact (h.ordered.poll number).control polled.formed (polled.holds claim free) one

/-- The job that is run answers the question of its call, if that goes on. -/
theorem Sound.answers (h : Sound program cloud mounter dispatch)
    {job : Mount.Job (Traffic σ μ ι α) Unit} (front : dispatch.waiting = job :: next.waiting)
    (host : next.host = (job.run dispatch.host).2) :
    ∃ question rest,
      next.host = dispatch.host.answerMounter cloud mounter job.caller question rest ∧
        ∀ order left, dispatch.host.calls[job.caller]? = some ⟨order, .going left⟩ →
          left = .ask (.mounter question) rest ∧
            dispatch.host.world.isWaiting job.caller = false := by
  obtain ⟨question, rest, form, stands⟩ := h.asked job (front ▸ List.mem_cons_self)
  refine ⟨question, rest, ?_, stands⟩
  rw [host]
  exact congrArg (fun job => (job.run dispatch.host).2) form

/-- The worker runs a job. -/
theorem Sound.work (h : Sound program cloud mounter dispatch)
    (locking : ∀ order, Locking (program order)) {job : Mount.Job (Traffic σ μ ι α) Unit}
    (front : dispatch.waiting = job :: next.waiting) (host : next.host = (job.run dispatch.host).2)
    (ran : next.ran = dispatch.ran ++ [job.caller]) : Sound program cloud mounter next := by
  have same := handedIn_of_work front ran
  obtain ⟨question, rest, result, stands⟩ := h.answers front host
  obtain ⟨alone, once⟩ := List.nodup_cons.mp (front ▸ h.once : (job :: next.waiting |>.map _).Nodup)
  have answered := Traffic.answered_answerMounter cloud mounter job.caller rest dispatch.host
  rw [← result] at answered
  have kept := Traffic.kept_answerMounter cloud mounter h.tracked h.guarded
    (fun order => (locking order).toDisciplined) stands
  rw [← result] at kept
  constructor
  case tracked => exact kept.1
  case guarded => exact kept.2
  case once => exact once
  case asked =>
    intro other ho
    have ne : other.caller ≠ job.caller := by
      rintro same
      exact alone (same ▸ List.mem_map_of_mem ho)
    obtain ⟨question, rest, form, stands⟩ := h.asked other (front ▸ List.mem_cons_of_mem _ ho)
    refine ⟨question, rest, form, fun order left here => ?_⟩
    rw [(answered.others _ ne).1] at here
    obtain ⟨rfl, free⟩ := stands order left here
    have eased := (Traffic.Loosens.of_locks answered.locks answered.acquires).eased other.caller
    exact ⟨rfl, eased.isWaiting h.guarded kept.2 free⟩
  case answered =>
    intro number hn order left here
    by_cases own : number = job.caller
    · rw [own] at here ⊢
      exact answered.own order left here
    · rw [(answered.others _ own).1] at here
      rw [(answered.others _ own).2]
      rw [ran] at hn
      rcases List.mem_append.mp hn with hn | hn
      · exact h.answered number hn order left here
      · exact absurd (List.mem_singleton.mp hn) own
  case known =>
    intro number hn
    rw [answered.length]
    exact h.known number (same ▸ hn)
  case ordered =>
    rw [same, answered.locks, answered.acquires]
    exact h.ordered

theorem Sound.step (h : Sound program cloud mounter dispatch)
    (locking : ∀ order, Locking (program order))
    (moved : Step program cloud mounter dispatch next) : Sound program cloud mounter next := by
  cases moved with
  | idle host waiting ran =>
    have same := handedIn_of_quiet waiting ran
    constructor
    case tracked => exact host ▸ h.tracked
    case guarded => exact host ▸ h.guarded
    case once => exact waiting ▸ h.once
    case asked => exact waiting ▸ host ▸ h.asked
    case answered => exact ran ▸ host ▸ h.answered
    case known => exact same ▸ host ▸ h.known
    case ordered => exact same ▸ host ▸ h.ordered
  | call moved direct waiting ran => exact h.call locking moved direct waiting ran
  | handIn here fresh free host waiting ran =>
    exact h.handIn locking here fresh free host waiting ran
  | work front host ran => exact h.work locking front host ran

theorem sound_start (program : ι → NodeProgram α) (cloud : CloudModel σ) (mounter : MounterModel μ)
    (locking : ∀ order, Locking (program order)) (cloudState : σ) (mounterState : μ)
    (tree : Host.FileTree) :
    Sound program cloud mounter
      (run program cloud mounter [] (.start cloudState mounterState tree)) := by
  have guarded := Traffic.guarded_run (fun order => (locking order).toDisciplined) cloud mounter []
    cloudState mounterState tree
  constructor
  case tracked => exact Traffic.tracked_run program cloud mounter [] _
  case guarded => exact guarded
  case ordered => exact guarded.ordered
  all_goals simp [run, Queue.start, handedIn]

theorem Sound.foldl (h : Sound program cloud mounter dispatch)
    (locking : ∀ order, Locking (program order)) (moves : List (DispatchMove ι)) :
    Sound program cloud mounter (moves.foldl (Dispatch.step program cloud mounter) dispatch) :=
  foldl_induction h (fun _ _ h moved => h.step locking moved) moves

theorem sound_run (locking : ∀ order, Locking (program order)) (cloud : CloudModel σ)
    (mounter : MounterModel μ) (moves : List (DispatchMove ι)) (cloudState : σ) (mounterState : μ)
    (tree : Host.FileTree) :
    Sound program cloud mounter
      (run program cloud mounter moves (.start cloudState mounterState tree)) :=
  (sound_start program cloud mounter locking cloudState mounterState tree).foldl locking moves

end Dispatch
end BlockVolume.Node
