import BlockVolume.Node.Task
/-!
Several operations at once on one node, taking turns.

When the turn of a task is over, the next one that is due has its turn. What is due at the same time
is due in the order in which it was put down — a task whose time has come when it is enrolled begins
before the next one is looked at. Tasks that gave way are let in again when nothing else is due, the
latest first. A task that is stopped gives back the lock it holds or waits for at its next turn.
-/

namespace BlockVolume.Node

/-- What can be due for a task. -/
inductive Due where
  | turn (task : Nat)
  | stop (task : Nat)
  deriving DecidableEq

/-- What is due and when, in order. -/
abbrev Agenda := List (Nat × Due)

namespace Agenda

/-- Puts something down after all that is due until then. -/
def put (ms : Nat) (due : Due) : Agenda → Agenda
  | [] => [(ms, due)]
  | (other, first) :: rest =>
    if other ≤ ms then (other, first) :: put ms due rest else (ms, due) :: (other, first) :: rest

/-- Puts the turn of a task down unless it is there. -/
def putTurn (agenda : Agenda) (ms task : Nat) : Agenda :=
  if agenda.contains (ms, .turn task) then agenda else agenda.put ms (.turn task)

end Agenda

/-- A task with its start and, perhaps, the time at which it is stopped. -/
structure Plan (α : Type) where
  start : Nat
  stop : Option Nat
  job : Job α

/-- Tasks on their way. -/
structure Schedule (σ μ α : Type) where
  world : World σ μ
  tasks : List (Standing α)
  agenda : Agenda
  /-- The tasks that gave way, the latest first. -/
  aside : List Nat
  /-- How many turns were taken since tasks that gave way could last come in. -/
  turns : Nat

namespace Schedule

variable {σ μ α : Type}

/-- The number of turns after which tasks that gave way come in even if others are due. -/
def turnsInARow : Nat := 61

/-- Tasks before any of them is enrolled. -/
def start (plans : List (Plan α)) (world : World σ μ) : Schedule σ μ α where
  world
  tasks := plans.map fun plan => .ready plan.job
  agenda := []
  aside := []
  turns := 0

/-- Lets the tasks that gave way come in after all that is due already. -/
def bringBack (schedule : Schedule σ μ α) : Schedule σ μ α :=
  { schedule with
    agenda := schedule.aside.foldl (·.putTurn schedule.world.now ·) schedule.agenda
    aside := []
    turns := 0 }

/-- Counts a turn. -/
def count (schedule : Schedule σ μ α) : Schedule σ μ α :=
  if schedule.turns + 1 < turnsInARow then { schedule with turns := schedule.turns + 1 }
  else schedule.bringBack

/-- Gives a turn to each task that was handed its lock. -/
def wake (schedule : Schedule σ μ α) : Schedule σ μ α :=
  let chosen := schedule.world.locks.waiting.filter (·.standing == .chosen)
  { schedule with
    agenda := chosen.foldl (fun agenda claim => agenda.putTurn schedule.world.now claim.name)
      schedule.agenda }

/-- Goes on with the program of a task — not where it still waits for its lock. -/
def goOn (cloud : CloudModel σ) (mounter : MounterModel μ) (task : Nat) (program : NodeProgram α)
    (schedule : Schedule σ μ α) : Schedule σ μ α :=
  let world := { schedule.world with locks := schedule.world.locks.poll task }
  if world.isWaiting task then schedule
  else
    let (standing, next, world) := world.goOn cloud mounter task (waitsPerTurn - 1) program
    { schedule with
      world
      tasks := schedule.tasks.set task standing
      agenda :=
        match next with
        | some ms => schedule.agenda.put ms (.turn task)
        | none => schedule.agenda
      aside :=
        match standing with
        | .givingWay _ _ => task :: schedule.aside
        | _ => schedule.aside }

/-- The turn of a task. -/
def turn (cloud : CloudModel σ) (mounter : MounterModel μ) (task : Nat)
    (schedule : Schedule σ μ α) : Schedule σ μ α :=
  let world := schedule.world
  match schedule.tasks[task]? with
  | some (.ready (.operation program)) => schedule.goOn cloud mounter task program
  | some (.givingWay 0 program) => schedule.goOn cloud mounter task program
  | some (.givingWay ms program) =>
    { schedule with
      tasks := schedule.tasks.set task (.ready (.operation program))
      agenda := schedule.agenda.put (world.now + ms) (.turn task) }
  | some (.ready (.look text result)) =>
    { schedule with
      world := world.record (.observed (text world.locks))
      tasks := schedule.tasks.set task (.ended result world.now) }
  | some .stopping =>
    { schedule with
      world := { world with locks := (world.locks.release task).cancel task }
      tasks := schedule.tasks.set task .stopped
      agenda := schedule.agenda.filter (·.2 != .turn task)
      aside := schedule.aside.filter (· != task) }
  | _ => schedule

/-- Stops a task that is not done. It has its last turn at once, after all that is due already. -/
def stop (task : Nat) (schedule : Schedule σ μ α) : Schedule σ μ α :=
  let stopping :=
    { schedule with
      tasks := schedule.tasks.set task .stopping
      agenda := schedule.agenda.putTurn schedule.world.now task }
  match schedule.tasks[task]? with
  | some (.ready _) | some (.givingWay _ _) => stopping
  | _ => schedule

/-- Does what is due now. -/
def perform (cloud : CloudModel σ) (mounter : MounterModel μ) (due : Due)
    (schedule : Schedule σ μ α) : Schedule σ μ α :=
  match due with
  | .turn task => (schedule.turn cloud mounter task).wake.count
  | .stop task => (schedule.stop task).count

/-- Does something at once if its time has come, and takes a turn to put it down if not. -/
def performAt (cloud : CloudModel σ) (mounter : MounterModel μ) (ms : Nat) (due : Due)
    (schedule : Schedule σ μ α) : Schedule σ μ α :=
  if ms ≤ schedule.world.now then schedule.perform cloud mounter due
  else { schedule with agenda := schedule.agenda.put ms due }.count

/-- Enrolls a task: sees to its start, and then to its stop. -/
def enroll (cloud : CloudModel σ) (mounter : MounterModel μ) (plan : Plan α) (task : Nat)
    (schedule : Schedule σ μ α) : Schedule σ μ α :=
  let schedule := schedule.performAt cloud mounter plan.start (.turn task)
  match plan.stop with
  | some ms => schedule.performAt cloud mounter ms (.stop task)
  | none => schedule

/-- Nothing is due now. -/
def isIdle (schedule : Schedule σ μ α) : Bool :=
  !schedule.agenda.any (·.1 ≤ schedule.world.now)

/-- Does what is due next. -/
def step (cloud : CloudModel σ) (mounter : MounterModel μ) (schedule : Schedule σ μ α) :
    Schedule σ μ α :=
  let schedule := if schedule.isIdle then schedule.bringBack else schedule
  match schedule.agenda with
  | [] => schedule
  | (ms, due) :: agenda =>
    { schedule with world := { schedule.world with now := ms }, agenda }.perform cloud mounter due

/-- Does what is due, `steps` steps of it at most. -/
def steps (cloud : CloudModel σ) (mounter : MounterModel μ) :
    Nat → Schedule σ μ α → Schedule σ μ α
  | 0, schedule => schedule
  | count + 1, schedule =>
    if schedule.agenda.isEmpty && schedule.aside.isEmpty then schedule
    else steps cloud mounter count (schedule.step cloud mounter)

end Schedule

/-- More turns than an operation can take: one for its start, one for its lock, and two for each
call and each wait, before which it may give way. A call is made at most three times an attempt, the
waits counted, and a disk is watched for at most as many looks as there are attempts, each of them a
call. -/
def turnBound (policy : Operation.RetryPolicy) : Nat :=
  let attempts := policy.maxAttempts.toNat + 1
  2 + 2 * (6 * attempts + attempts * (3 * attempts + 1))

/-- Runs tasks to their ends under a policy that bounds their turns. A task that is stopped takes
two more: one to stop it, and its last one. -/
def runTasks {σ μ α : Type} (cloud : CloudModel σ) (mounter : MounterModel μ)
    (policy : Operation.RetryPolicy) (plans : List (Plan α)) (world : World σ μ) :
    List (Standing α) × World σ μ :=
  let schedule := plans.zipIdx.foldl
    (fun schedule (plan, task) => schedule.enroll cloud mounter plan task)
    (Schedule.start plans world)
  let schedule := schedule.steps cloud mounter (plans.length * (turnBound policy + 2))
  (schedule.tasks, schedule.world)

end BlockVolume.Node
