import BlockVolume.Mount.Error
/-!
The queue of host jobs: one worker runs them one at a time, in the order they were handed in.

A job that crashes answers its caller with an error and leaves the worker as it was; a caller that
has left changes nothing but that its answer is dropped.
-/

namespace BlockVolume.Mount

/-- How a job ends when it is run on the host. -/
inductive JobEnd (α : Type) where
  | value (result : α)
  | failed (e : MountError)
  | crashed

/-- A job, and who waits for it. -/
structure Job (σ α : Type) where
  caller : Nat
  run : σ → JobEnd α × σ

/-- What the caller of a crashed job is told. -/
def crashedJob : MountError := .told "request was cancelled (thread paniced?)"

/-- The answer to the caller of a job. -/
def JobEnd.answer {α : Type} : JobEnd α → Except MountError α
  | .value result => .ok result
  | .failed e => .error e
  | .crashed => .error crashedJob

/-- Jobs in the order they were handed in, and what has happened to those before them. -/
structure Queue (σ α : Type) where
  waiting : List (Job σ α)
  host : σ
  /-- Callers that have left. -/
  gone : List Nat
  /-- The callers of the jobs run so far, in order. -/
  ran : List Nat
  /-- The answers that were received, in order. -/
  answers : List (Nat × Except MountError α)

namespace Queue

variable {σ α : Type}

/-- What can happen to a queue. -/
inductive Event (σ α : Type) where
  /-- A job is handed in. -/
  | submit (job : Job σ α)
  /-- The worker runs the job at the front. -/
  | work
  /-- A caller leaves. -/
  | leave (caller : Nat)

/-- One event. -/
def step (q : Queue σ α) : Event σ α → Queue σ α
  | .submit job => { q with waiting := q.waiting ++ [job] }
  | .leave caller => { q with gone := caller :: q.gone }
  | .work =>
    match q.waiting with
    | [] => q
    | job :: rest =>
      let (ended, host) := job.run q.host
      { q with
        waiting := rest
        host
        ran := q.ran ++ [job.caller]
        answers :=
          if q.gone.contains job.caller then q.answers
          else q.answers ++ [(job.caller, ended.answer)] }

/-- A queue without jobs. -/
def start (host : σ) : Queue σ α := ⟨[], host, [], [], []⟩

/-- Events in order. -/
def run (events : List (Event σ α)) (host : σ) : Queue σ α :=
  events.foldl step (start host)

/-- Hands all jobs in, then works them off. -/
def runAll (jobs : List (σ → JobEnd α × σ)) (host : σ) : Queue σ α :=
  let submits := jobs.zipIdx.map fun (job, caller) => Event.submit ⟨caller, job⟩
  run (submits ++ List.replicate jobs.length .work) host

end Queue
end BlockVolume.Mount
