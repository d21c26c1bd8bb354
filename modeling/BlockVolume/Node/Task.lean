import BlockVolume.Node.Service
import BlockVolume.Node.World
/-!
Operations as tasks that take turns.

In its turn a task goes on until it ends, waits for its lock or lets time pass. A wait that is over
at once does not end the turn, but only so many of them fit into one turn — then the task gives way
to the others, and begins the next wait when it is let in again.
-/

namespace BlockVolume.Node

/-- What a task does. -/
inductive Job (α : Type) where
  | operation (program : NodeProgram α)
  /-- Looks at the locks and writes down what it sees. -/
  | look (text : Lock.Table Nat → String) (result : α)

/-- How a task stands. -/
inductive Standing (α : Type) where
  /-- It goes on at its next turn. -/
  | ready (job : Job α)
  /-- It gave way, and begins to wait for `ms` milliseconds at its next turn. -/
  | givingWay (ms : Nat) (program : NodeProgram α)
  /-- It is given up at its next turn. -/
  | stopping
  | ended (result : α) (ms : Nat)
  | stopped

/-- The number of waits that end in one turn at most, the one before the turn among them. -/
def waitsPerTurn : Nat := 128

namespace World

variable {σ μ : Type}

/-- The task waits for a lock. -/
def isWaiting (world : World σ μ) (task : Nat) : Bool :=
  world.locks.waiting.any (·.name == task)

/-- Goes on with a program of a task until its turn is over, `left` more waits ending in it at most.
Tells how the task stands then, and the time of its next turn where time alone decides on it. -/
def goOn (cloud : CloudModel σ) (mounter : MounterModel μ) (task : Nat) {α : Type} :
    (left : Nat) → NodeProgram α → World σ μ → Standing α × Option Nat × World σ μ
  | _, .done result, world => (.ended result world.now, none, world)
  | left, .ask question next, world =>
    let (reply, wait, world) := world.answer cloud mounter task question
    if world.isWaiting task then (.ready (.operation (next reply)), none, world)
    else
      match wait, left with
      | none, left => goOn cloud mounter task left (next reply) world
      | some ms, 0 => (.givingWay ms (next reply), none, world)
      | some 0, left + 1 => goOn cloud mounter task left (next reply) world
      | some ms, _ + 1 => (.ready (.operation (next reply)), some (world.now + ms), world)

end World
end BlockVolume.Node
