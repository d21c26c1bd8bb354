import BlockVolume.Node.Task
/-!
Calls that are under way on one node at the same time.

Each call has a program of its own, and all have one world. A move lets one call ask one question, or
gives a call up between two of its questions, or begins another call. In what order the calls have
their moves is left open, so what holds after any moves holds however the calls are interleaved.
-/

namespace BlockVolume.Node

open BlockVolume.Program (Exchange)

/-- How far a call has come. -/
inductive Progress (α : Type) where
  | going (rest : NodeProgram α)
  | ended (result : α)
  | givenUp

/-- A call: what was ordered, and how far it has come. -/
structure Call (ι α : Type) where
  order : ι
  progress : Progress α

/-- What can happen to calls. -/
inductive Move (ι : Type) where
  /-- A call is begun; calls have the numbers in which they were begun. -/
  | begin (order : ι)
  /-- A call goes on to its next question, or ends. -/
  | goOn (number : Nat)
  /-- A call is given up. -/
  | giveUp (number : Nat)
  | pass (ms : Nat)

/-- Calls under way. -/
structure Traffic (σ μ ι α : Type) where
  world : World σ μ
  calls : List (Call ι α)
  /-- The exchanges of the calls by their numbers, in order. -/
  log : List (Nat × Exchange Ask.Answer)

variable {σ μ ι α : Type}

/-- The world after a poll of the lock that a call may wait for. -/
def World.polled (world : World σ μ) (number : Nat) : World σ μ :=
  { world with locks := world.locks.poll number }

namespace Traffic

/-- No calls yet. -/
def start (world : World σ μ) : Traffic σ μ ι α := ⟨world, [], []⟩

/-- Lets a call go on — not where it still waits for its lock. -/
def goOn (cloud : CloudModel σ) (mounter : MounterModel μ) (number : Nat)
    (traffic : Traffic σ μ ι α) : Traffic σ μ ι α :=
  match traffic.calls[number]? with
  | some ⟨order, .going rest⟩ =>
    let world := traffic.world.polled number
    if world.isWaiting number then traffic
    else
      match rest with
      | .done result =>
        { traffic with world, calls := traffic.calls.set number ⟨order, .ended result⟩ }
      | .ask question next =>
        let (reply, _, world) := world.answer cloud mounter number question
        { world
          calls := traffic.calls.set number ⟨order, .going (next reply)⟩
          log := traffic.log ++ [(number, ⟨question, reply⟩)] }
  | _ => traffic

/-- Gives a call up; the lock that it holds or waits for is given back. -/
def giveUp (number : Nat) (traffic : Traffic σ μ ι α) : Traffic σ μ ι α :=
  match traffic.calls[number]? with
  | some ⟨order, .going _⟩ =>
    { traffic with
      world :=
        { traffic.world with locks := (traffic.world.locks.release number).cancel number }
      calls := traffic.calls.set number ⟨order, .givenUp⟩ }
  | _ => traffic

/-- One move; `program` tells what is done for an order. -/
def step (program : ι → NodeProgram α) (cloud : CloudModel σ) (mounter : MounterModel μ)
    (traffic : Traffic σ μ ι α) : Move ι → Traffic σ μ ι α
  | .begin order =>
    { traffic with calls := traffic.calls ++ [⟨order, .going (program order)⟩] }
  | .goOn number => traffic.goOn cloud mounter number
  | .giveUp number => traffic.giveUp number
  | .pass ms => { traffic with world := traffic.world.pass ms }

/-- Moves in order, from a world in which there are no calls. -/
def run (program : ι → NodeProgram α) (cloud : CloudModel σ) (mounter : MounterModel μ)
    (moves : List (Move ι)) (world : World σ μ) : Traffic σ μ ι α :=
  moves.foldl (step program cloud mounter) (start world)

/-- The exchanges of a call, in order. -/
def past (traffic : Traffic σ μ ι α) (number : Nat) : List (Exchange Ask.Answer) :=
  (traffic.log.filter (·.1 == number)).map Prod.snd

end Traffic
end BlockVolume.Node
