import BlockVolume.Mount.Queue
import Mathlib.Data.List.Forall2
import Mathlib.Data.List.Induction
import Mathlib.Data.List.TakeWhile
/-!
The queue runs every job once and in order, and keeps its jobs apart.

What was run is always a first part of what was handed in, and the host is as these jobs left it one
after the other. A caller that has not left by then is told how its own job ended. None of this
depends on how other jobs end, or on whether their callers are still there: `AlikeFor` relates
events that differ in nothing else.
-/

namespace BlockVolume.Mount.Queue

variable {σ α : Type} {caller : Nat} {job : Job σ α} {jobs done : List (Job σ α)} {host : σ}
  {q q' : Queue σ α} {event : Event σ α} {events events' : List (Event σ α)}

/-! ### What is handed in, and what comes of it -/

/-- The jobs handed in, in order. -/
def submitted (events : List (Event σ α)) : List (Job σ α) :=
  events.filterMap fun event =>
    match event with
    | .submit job => some job
    | _ => none

/-- The worker comes to run a job. -/
def Event.isWork : Event σ α → Bool
  | .work => true
  | _ => false

/-- The caller leaves by this event. -/
def Event.isLeave (caller : Nat) : Event σ α → Bool
  | .leave other => other == caller
  | _ => false

/-- The events before a caller leaves. -/
def untilLeft (caller : Nat) (events : List (Event σ α)) : List (Event σ α) :=
  events.takeWhile fun event => !event.isLeave caller

/-- The host after jobs were run one after the other. -/
def after (jobs : List (Job σ α)) (host : σ) : σ :=
  jobs.foldl (fun host job => (job.run host).2) host

/-- The answers to jobs that are run one after the other. -/
def answered : List (Job σ α) → σ → List (Nat × Except MountError α)
  | [], _ => []
  | job :: rest, host => (job.caller, (job.run host).1.answer) :: answered rest (job.run host).2

/-- What a caller is told in a list of answers. -/
def toldTo (caller : Nat) (answers : List (Nat × Except MountError α)) :
    List (Except MountError α) :=
  (answers.filter (·.1 == caller)).map Prod.snd

/-- The jobs that were run. -/
def finished (events : List (Event σ α)) (host : σ) : List (Job σ α) :=
  (submitted events).take (run events host).ran.length

@[simp] theorem submitted_append (events later : List (Event σ α)) :
    submitted (events ++ later) = submitted events ++ submitted later :=
  List.filterMap_append

theorem run_concat (events : List (Event σ α)) (event : Event σ α) (host : σ) :
    run (events ++ [event]) host = (run events host).step event := by
  simp [run]

theorem run_append (events later : List (Event σ α)) (host : σ) :
    run (events ++ later) host = later.foldl step (run events host) :=
  List.foldl_append

theorem answered_append (jobs later : List (Job σ α)) (host : σ) :
    answered (jobs ++ later) host = answered jobs host ++ answered later (after jobs host) := by
  induction jobs generalizing host with
  | nil => rfl
  | cons job jobs ih => exact congrArg (_ :: ·) (ih _)

@[simp] theorem toldTo_append (caller : Nat) (answers later : List (Nat × Except MountError α)) :
    toldTo caller (answers ++ later) = toldTo caller answers ++ toldTo caller later := by
  simp [toldTo]

theorem toldTo_answered_cons (caller : Nat) (job : Job σ α) (jobs : List (Job σ α)) (host : σ) :
    toldTo caller (answered (job :: jobs) host) =
      (if job.caller = caller then [(job.run host).1.answer] else []) ++
        toldTo caller (answered jobs (job.run host).2) := by
  rw [answered, toldTo, List.filter_cons]
  by_cases own : job.caller = caller <;> simp [own, toldTo]

/-- Nobody is told anything by jobs of others. -/
theorem toldTo_answered_of_ne (others : ∀ job ∈ jobs, job.caller ≠ caller) (host : σ) :
    toldTo caller (answered jobs host) = [] := by
  induction jobs generalizing host with
  | nil => rfl
  | cons job jobs ih =>
    obtain ⟨first, later⟩ := List.forall_mem_cons.mp others
    rw [toldTo_answered_cons, if_neg first, ih later]
    rfl

/-- The job at the front is run, and its answer goes to a caller that has not left. -/
theorem step_work {rest : List (Job σ α)} (front : q.waiting = job :: rest) :
    q.step .work =
      { q with
        waiting := rest
        host := (job.run q.host).2
        ran := q.ran ++ [job.caller]
        answers :=
          if q.gone.contains job.caller then q.answers
          else q.answers ++ [(job.caller, (job.run q.host).1.answer)] } := by
  rw [step, front]

theorem step_work_nil (none : q.waiting = []) : q.step .work = q := by
  rw [step, none]

/-- A caller is told how its own job ended, and nothing by another one. -/
theorem toldTo_work {rest : List (Job σ α)} (front : q.waiting = job :: rest) (caller : Nat) :
    toldTo caller (q.step .work).answers = toldTo caller q.answers ++
      if job.caller = caller ∧ caller ∉ q.gone then [(job.run q.host).1.answer] else [] := by
  rw [step_work front]
  dsimp only
  by_cases gone : job.caller ∈ q.gone
  · have silent : ¬(job.caller = caller ∧ caller ∉ q.gone) := fun ⟨own, here⟩ => here (own ▸ gone)
    simp [gone, silent]
  · by_cases own : job.caller = caller
    · subst own
      simp [gone, toldTo]
    · simp [gone, own, toldTo]

/-! ### One event after the other -/

/-- A queue after events: the jobs that were run are the first that were handed in, and what they
did is done. -/
structure Runs (events : List (Event σ α)) (host : σ) (done : List (Job σ α)) (q : Queue σ α) :
    Prop where
  inOrder : submitted events = done ++ q.waiting
  ran : q.ran = done.map Job.caller
  left : q.host = after done host
  /-- A caller that has not left was told how its jobs ended. -/
  told : ∀ caller, untilLeft caller events = events →
    caller ∉ q.gone ∧ toldTo caller q.answers = toldTo caller (answered done host)

theorem untilLeft_eq_self : untilLeft caller events = events ↔
    ∀ event ∈ events, event.isLeave caller = false := by
  rw [untilLeft, List.takeWhile_eq_self_iff]
  simp

theorem Runs.next (h : Runs events host done q) (event : Event σ α) :
    ∃ done', Runs (events ++ [event]) host done' (q.step event) := by
  -- who is still there after the event was there before it
  have stayed (caller : Nat) (stays : untilLeft caller (events ++ [event]) = events ++ [event]) :
      untilLeft caller events = events ∧ event.isLeave caller = false := by
    simp only [untilLeft_eq_self, List.mem_append, List.mem_singleton] at stays ⊢
    exact ⟨fun event mem => stays event (Or.inl mem), stays event (Or.inr rfl)⟩
  cases event with
  | submit job =>
    refine ⟨done, ?_, h.ran, h.left, fun caller stays => h.told caller (stayed caller stays).1⟩
    rw [submitted_append, h.inOrder, List.append_assoc]
    rfl
  | leave other =>
    refine ⟨done, ?_, h.ran, h.left, fun caller stays => ?_⟩
    · rw [submitted_append, h.inOrder]
      exact List.append_nil _
    · obtain ⟨before, now⟩ := stayed caller stays
      obtain ⟨here, told⟩ := h.told caller before
      have another : other ≠ caller := by simpa [Event.isLeave] using now
      exact ⟨by simp [step, here, Ne.symm another], told⟩
  | work =>
    cases front : q.waiting with
    | nil =>
      rw [step_work_nil front]
      refine ⟨done, ?_, h.ran, h.left, fun caller stays => h.told caller (stayed caller stays).1⟩
      rw [submitted_append, h.inOrder]
      exact List.append_nil _
    | cons job rest =>
      refine ⟨done ++ [job], ?_, ?_, ?_, fun caller stays => ?_⟩
      · rw [submitted_append, h.inOrder, front, step_work front]
        simp [submitted]
      · simp [h.ran, step_work front]
      · simp [h.left, step_work front, after]
      · obtain ⟨here, told⟩ := h.told caller (stayed caller stays).1
        refine ⟨by simpa [step_work front] using here, ?_⟩
        rw [toldTo_work front, told, answered_append, toldTo_append, toldTo_answered_cons, h.left]
        simp [here, answered, toldTo]

theorem exists_runs (events : List (Event σ α)) (host : σ) :
    ∃ done, Runs events host done (run events host) := by
  induction events using List.reverseRecOn with
  | nil =>
    exact ⟨[], rfl, rfl, rfl, fun caller _ => ⟨List.not_mem_nil, rfl⟩⟩
  | append_singleton events event ih =>
    obtain ⟨done, runs⟩ := ih
    rw [run_concat]
    exact runs.next event

/-- The jobs that were run are those that were handed in first. -/
theorem runs_finished (events : List (Event σ α)) (host : σ) :
    Runs events host (finished events host) (run events host) := by
  obtain ⟨done, runs⟩ := exists_runs events host
  have all : finished events host = done := by
    rw [finished, runs.ran, List.length_map, runs.inOrder, List.take_left]
  rwa [all]

/-! ### Callers that have left -/

/-- A caller that has left is told nothing more. -/
theorem toldTo_foldl_of_gone (events : List (Event σ α)) (gone : caller ∈ q.gone) :
    toldTo caller (events.foldl step q).answers = toldTo caller q.answers := by
  induction events generalizing q with
  | nil => rfl
  | cons event events ih =>
    rw [List.foldl_cons]
    cases event with
    | submit job => exact ih gone
    | leave other => exact ih (List.mem_cons_of_mem other gone)
    | work =>
      cases front : q.waiting with
      | nil => rw [step_work_nil front, ih gone]
      | cons job rest =>
        have still : caller ∈ (q.step .work).gone := by rwa [step_work front]
        rw [ih still, toldTo_work front]
        simp [gone]

/-- A caller is told how its jobs ended that were run before it left. -/
theorem toldTo_run (caller : Nat) (events : List (Event σ α)) (host : σ) :
    toldTo caller (run events host).answers =
      toldTo caller (answered (finished (untilLeft caller events) host) host) := by
  have early : untilLeft caller (untilLeft caller events) = untilLeft caller events :=
    List.takeWhile_idem
  rw [← ((runs_finished (untilLeft caller events) host).told caller early).2]
  have split : untilLeft caller events ++ events.dropWhile (!Event.isLeave caller ·) = events :=
    List.takeWhile_append_dropWhile
  -- the caller never leaves, or the first thing that is left is that it does
  cases rest : events.dropWhile (!Event.isLeave caller ·) with
  | nil =>
    rw [rest, List.append_nil] at split
    rw [split]
  | cons event later =>
    have leaves : event.isLeave caller = true := by
      have first := List.head_dropWhile_not (!Event.isLeave caller ·) (l := events) (by simp [rest])
      simpa [rest] using first
    obtain ⟨other, rfl⟩ : ∃ other, event = .leave other := by
      cases event with
      | leave other => exact ⟨other, rfl⟩
      | _ => cases leaves
    obtain rfl : other = caller := by simpa [Event.isLeave] using leaves
    rw [rest] at split
    have whole : run events host =
        later.foldl step ((run (untilLeft other events) host).step (.leave other)) := by
      rw [← List.foldl_cons, ← run_append, split]
    rw [whole]
    exact toldTo_foldl_of_gone later List.mem_cons_self

theorem submitted_untilLeft (caller : Nat) (events : List (Event σ α)) :
    submitted (untilLeft caller events) <+: submitted events :=
  (List.takeWhile_prefix _).filterMap _

/-- A caller with one job is told how it ended if it was run before the caller left, and is told
nothing else. -/
theorem toldTo_own {before later : List (Job σ α)}
    (split : submitted events = before ++ job :: later)
    (own : ∀ other ∈ before ++ later, other.caller ≠ job.caller) (host : σ) :
    toldTo job.caller (run events host).answers =
      if before.length < (run (untilLeft job.caller events) host).ran.length then
        [(job.run (after before host)).1.answer]
      else [] := by
  have runs := runs_finished (untilLeft job.caller events) host
  have first : finished (untilLeft job.caller events) host <+: before ++ job :: later := by
    rw [← split]
    refine List.IsPrefix.trans ?_ (submitted_untilLeft job.caller events)
    exact runs.inOrder ▸ List.prefix_append _ _
  obtain ⟨others, othersLater⟩ := List.forall_mem_append.mp own
  rw [toldTo_run, runs.ran, List.length_map]
  generalize finished (untilLeft job.caller events) host = done at first ⊢
  split
  case isTrue ran =>
    have whole : before ++ [job] <+: before ++ job :: later := ⟨later, by simp⟩
    have far : (before ++ [job]).length ≤ done.length := by simpa [Nat.add_one_le_iff] using ran
    obtain ⟨rest, rfl⟩ := List.prefix_of_prefix_length_le whole first far
    have rests : rest <+: later := by simpa [List.append_assoc] using first
    rw [List.append_assoc, answered_append, toldTo_append, toldTo_answered_of_ne others,
      List.nil_append, List.singleton_append, toldTo_answered_cons, if_pos rfl,
      toldTo_answered_of_ne fun other mem => othersLater other (rests.subset mem)]
    rfl
  case isFalse waits =>
    have early : done <+: before :=
      List.prefix_of_prefix_length_le first (List.prefix_append _ _) (by omega)
    exact toldTo_answered_of_ne (fun other mem => others other (early.subset mem)) host

/-! ### All jobs come to be run -/

/-- Each turn of the worker runs a job as long as one is waiting. -/
theorem ran_foldl (later : List (Event σ α)) (q : Queue σ α) :
    q.ran.length + min q.waiting.length (later.countP Event.isWork) ≤
      (later.foldl step q).ran.length := by
  induction later generalizing q with
  | nil => simp
  | cons event later ih =>
    rw [List.foldl_cons, List.countP_cons]
    refine le_trans ?_ (ih _)
    cases event with
    | submit job =>
      have more : (q.step (.submit job)).waiting.length = q.waiting.length + 1 := by simp [step]
      have same : (q.step (.submit job)).ran = q.ran := rfl
      simp only [Event.isWork, same, more, Bool.false_eq_true, if_false]
      omega
    | leave other => exact le_refl _
    | work =>
      cases front : q.waiting with
      | nil =>
        rw [step_work_nil front, front]
        simp
      | cons job rest =>
        simp only [step_work front, Event.isWork, if_true, List.length_cons, List.length_append,
          List.length_nil]
        omega

/-- After as many turns as jobs are waiting, all that was handed in was run. -/
theorem ran_of_turns {later : List (Event σ α)}
    (enough : (run events host).waiting.length ≤ later.countP Event.isWork) :
    (submitted events).map Job.caller <+: (run (events ++ later) host).ran := by
  have first := runs_finished events host
  have last := runs_finished (events ++ later) host
  have count : (submitted events).length ≤ (finished (events ++ later) host).length := by
    have more := ran_foldl later (run events host)
    rw [← run_append, min_eq_left enough, last.ran, first.ran, List.length_map, List.length_map]
      at more
    rw [first.inOrder, List.length_append]
    exact more
  have front : submitted events <+: submitted (events ++ later) := by
    rw [submitted_append]
    exact List.prefix_append _ _
  have done : finished (events ++ later) host <+: submitted (events ++ later) := by
    rw [last.inOrder]
    exact List.prefix_append _ _
  rw [last.ran]
  exact (List.prefix_of_prefix_length_le front done count).map _

/-! ### Events that are alike for a caller -/

/-- Jobs of one caller that do the same to the host. They may end in different ways, unless the
caller is the one of interest. -/
structure AlikeJobs (caller : Nat) (job job' : Job σ α) : Prop where
  same : job.caller = job'.caller
  effect : ∀ host, (job.run host).2 = (job'.run host).2
  own : job.caller = caller → ∀ host, (job.run host).1 = (job'.run host).1

/-- Events that differ in how jobs of others end, and in when others leave. -/
inductive AlikeFor (caller : Nat) : List (Event σ α) → List (Event σ α) → Prop where
  | nil : AlikeFor caller [] []
  | submit {job job' : Job σ α} {events events' : List (Event σ α)}
      (jobs : AlikeJobs caller job job') (rest : AlikeFor caller events events') :
      AlikeFor caller (.submit job :: events) (.submit job' :: events')
  | work {events events' : List (Event σ α)} (rest : AlikeFor caller events events') :
      AlikeFor caller (.work :: events) (.work :: events')
  | leave {events events' : List (Event σ α)} (rest : AlikeFor caller events events') :
      AlikeFor caller (.leave caller :: events) (.leave caller :: events')
  | left {other : Nat} {events events' : List (Event σ α)} (ne : other ≠ caller)
      (rest : AlikeFor caller events events') : AlikeFor caller (.leave other :: events) events'
  | right {other : Nat} {events events' : List (Event σ α)} (ne : other ≠ caller)
      (rest : AlikeFor caller events events') : AlikeFor caller events (.leave other :: events')

/-- Queues that look alike to a caller. -/
structure LooksAlike (caller : Nat) (q q' : Queue σ α) : Prop where
  waiting : List.Forall₂ (AlikeJobs caller) q.waiting q'.waiting
  host : q.host = q'.host
  ran : q.ran = q'.ran
  gone : caller ∈ q.gone ↔ caller ∈ q'.gone
  told : toldTo caller q.answers = toldTo caller q'.answers

theorem LooksAlike.submit {job job' : Job σ α} (h : LooksAlike caller q q')
    (jobs : AlikeJobs caller job job') :
    LooksAlike caller (q.step (.submit job)) (q'.step (.submit job')) :=
  ⟨List.rel_append h.waiting (.cons jobs .nil), h.host, h.ran, h.gone, h.told⟩

theorem LooksAlike.work (h : LooksAlike caller q q') :
    LooksAlike caller (q.step .work) (q'.step .work) := by
  have waiting := h.waiting
  cases front : q.waiting with
  | nil =>
    rw [front] at waiting
    rw [step_work_nil front, step_work_nil (List.forall₂_nil_left_iff.mp waiting)]
    exact h
  | cons job rest =>
    rw [front] at waiting
    obtain ⟨job', rest', jobs, later, front'⟩ := List.forall₂_cons_left_iff.mp waiting
    constructor
    case waiting => simpa [step_work front, step_work front'] using later
    case host => simp [step_work front, step_work front', h.host, jobs.effect]
    case ran => simp [step_work front, step_work front', h.ran, jobs.same]
    case gone => simpa [step_work front, step_work front'] using h.gone
    case told =>
      rw [toldTo_work front, toldTo_work front', h.told, ← jobs.same, ← h.host]
      by_cases own : job.caller = caller
      · simp only [h.gone, jobs.own own]
      · simp [own]

theorem LooksAlike.leave (h : LooksAlike caller q q') :
    LooksAlike caller (q.step (.leave caller)) (q'.step (.leave caller)) :=
  ⟨h.waiting, h.host, h.ran, by simp [step], h.told⟩

theorem LooksAlike.left {other : Nat} (h : LooksAlike caller q q') (ne : other ≠ caller) :
    LooksAlike caller (q.step (.leave other)) q' :=
  ⟨h.waiting, h.host, h.ran, by simpa [step, Ne.symm ne] using h.gone, h.told⟩

theorem LooksAlike.right {other : Nat} (h : LooksAlike caller q q') (ne : other ≠ caller) :
    LooksAlike caller q (q'.step (.leave other)) :=
  ⟨h.waiting, h.host, h.ran, by simpa [step, Ne.symm ne] using h.gone, h.told⟩

theorem AlikeFor.foldl (alike : AlikeFor caller events events') (h : LooksAlike caller q q') :
    LooksAlike caller (events.foldl Queue.step q) (events'.foldl Queue.step q') := by
  induction alike generalizing q q' with
  | nil => exact h
  | submit jobs _ ih => exact ih (h.submit jobs)
  | work _ ih => exact ih h.work
  | leave _ ih => exact ih h.leave
  | left ne _ ih => exact ih (h.left ne)
  | right ne _ ih => exact ih (h.right ne)

theorem AlikeFor.run (alike : AlikeFor caller events events') (host : σ) :
    LooksAlike caller (Queue.run events host) (Queue.run events' host) :=
  alike.foldl ⟨.nil, rfl, rfl, Iff.rfl, rfl⟩

/-! ### All together -/

/-- What a queue does with the jobs that are handed in, whatever happens in whatever order. -/
structure KeepsApart (events : List (Event σ α)) (host : σ) : Prop where
  /-- The jobs that were run are the first that were handed in, each once, one after the other. -/
  inOrder : ∃ done, submitted events = done ++ (run events host).waiting ∧
    (run events host).ran = done.map Job.caller ∧ (run events host).host = after done host
  /-- All jobs are run after as many turns of the worker as there are jobs waiting. -/
  all : ∀ later, (run events host).waiting.length ≤ later.countP Event.isWork →
    (submitted events).map Job.caller <+: (run (events ++ later) host).ran
  /-- A caller is told how its jobs ended, in order, as long as it has not left. -/
  told : ∀ caller, toldTo caller (run events host).answers =
    toldTo caller (answered (finished (untilLeft caller events) host) host)
  /-- A caller of one job is told how this job ended, once it was run, and nothing else. -/
  own : ∀ before job later, submitted events = before ++ job :: later →
    (∀ other ∈ before ++ later, other.caller ≠ job.caller) →
      toldTo job.caller (run events host).answers =
        if before.length < (run (untilLeft job.caller events) host).ran.length then
          [(job.run (after before host)).1.answer]
        else []
  /-- What is told of a job that came to a value is this value. -/
  value : ∀ result : α, (JobEnd.value result).answer = .ok result
  /-- What is told of a job that failed is its error. -/
  failed : ∀ e, (JobEnd.failed e : JobEnd α).answer = .error e
  /-- A crash is told as an error. -/
  crashed : (JobEnd.crashed : JobEnd α).answer = .error crashedJob ∧
    crashedJob = .other (.told "request was cancelled (thread paniced?)") ∧
      crashedJob.name = "UnknownMountError" ∧
        crashedJob.message = "Unknown mount error: request was cancelled (thread paniced?)"
  /-- Nothing changes for a caller, and nothing on the host or in what is run, by how jobs of others
  end and by when others leave. -/
  apart : ∀ caller events', AlikeFor caller events events' →
    (run events host).ran = (run events' host).ran ∧
      (run events host).host = (run events' host).host ∧
        toldTo caller (run events host).answers = toldTo caller (run events' host).answers

/-- Jobs of any callers, handed in, run and waited for in any order, are run once each and in order,
and are kept apart. -/
theorem run_keepsApart (events : List (Event σ α)) (host : σ) : KeepsApart events host := by
  have runs := runs_finished events host
  constructor
  case inOrder => exact ⟨finished events host, runs.inOrder, runs.ran, runs.left⟩
  case all => exact fun _ enough => ran_of_turns enough
  case told => exact fun caller => toldTo_run caller events host
  case own => exact fun _ _ _ split own => toldTo_own split own host
  case value => exact fun _ => rfl
  case failed => exact fun _ => rfl
  case crashed => exact ⟨rfl, rfl, rfl, by decide⟩
  case apart =>
    intro caller events' alike
    have looks := alike.run host
    exact ⟨looks.ran, looks.host, looks.told⟩

end BlockVolume.Mount.Queue
