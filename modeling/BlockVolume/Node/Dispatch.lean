import BlockVolume.Mount.Queue
import BlockVolume.Node.Traffic
/-!
Calls whose questions to the mounter are host jobs.

A question to the mounter is handed in to the queue at once, and the call goes on when the worker has
answered it. A call that is given up leaves its job in the queue: it is run all the same, and nobody
gets the answer. `Traffic` is what remains of this if each job is run as soon as it is handed in.
-/

namespace BlockVolume.Node

open BlockVolume.Mount (Queue)

/-- Calls under way with their host jobs. -/
abbrev Dispatch (σ μ ι α : Type) := Queue (Traffic σ μ ι α) Unit

/-- What can happen to calls with host jobs. -/
inductive DispatchMove (ι : Type) where
  | call (move : Move ι)
  /-- The worker runs the job at the front. -/
  | work

variable {σ μ ι α : Type}

/-- Answers a call's question to the mounter; the call goes on if it was not given up. -/
def Traffic.answerMounter (cloud : CloudModel σ) (mounter : MounterModel μ) (number : Nat)
    (question : MountAsk) (next : question.Answer → NodeProgram α) (traffic : Traffic σ μ ι α) :
    Traffic σ μ ι α :=
  let (reply, _, world) := traffic.world.answer cloud mounter number (.mounter question)
  match traffic.calls[number]? with
  | some ⟨order, .going _⟩ =>
    { world
      calls := traffic.calls.set number ⟨order, .going (next reply)⟩
      log := traffic.log ++ [(number, ⟨.mounter question, reply⟩)] }
  | _ => { traffic with world }

/-- The job behind a call's question to the mounter. -/
def hostJob (cloud : CloudModel σ) (mounter : MounterModel μ) (number : Nat) (question : MountAsk)
    (next : question.Answer → NodeProgram α) : Mount.Job (Traffic σ μ ι α) Unit where
  caller := number
  run traffic := (.value (), traffic.answerMounter cloud mounter number question next)

namespace Dispatch

/-- A job of the call is in the queue. -/
def awaits (dispatch : Dispatch σ μ ι α) (number : Nat) : Bool :=
  dispatch.waiting.any (·.caller == number)

/-- Lets a call go on — not where it still waits for its lock or for its answer. A question to the
mounter is handed in. -/
def goOn (cloud : CloudModel σ) (mounter : MounterModel μ) (number : Nat)
    (dispatch : Dispatch σ μ ι α) : Dispatch σ μ ι α :=
  match dispatch.host.calls[number]? with
  | some ⟨_, .going (.ask (.mounter question) next)⟩ =>
    let world := dispatch.host.world.polled number
    if dispatch.awaits number || world.isWaiting number then dispatch
    else
      Queue.step { dispatch with host := { dispatch.host with world } }
        (.submit (hostJob cloud mounter number question next))
  | _ => { dispatch with host := dispatch.host.goOn cloud mounter number }

/-- One move; `program` tells what is done for an order. -/
def step (program : ι → NodeProgram α) (cloud : CloudModel σ) (mounter : MounterModel μ)
    (dispatch : Dispatch σ μ ι α) : DispatchMove ι → Dispatch σ μ ι α
  | .work => Queue.step dispatch .work
  | .call (.goOn number) => dispatch.goOn cloud mounter number
  | .call (.giveUp number) =>
    Queue.step { dispatch with host := dispatch.host.giveUp number } (.leave number)
  | .call move => { dispatch with host := dispatch.host.step program cloud mounter move }

/-- Moves in order, from a world in which there are no calls. -/
def run (program : ι → NodeProgram α) (cloud : CloudModel σ) (mounter : MounterModel μ)
    (moves : List (DispatchMove ι)) (world : World σ μ) : Dispatch σ μ ι α :=
  moves.foldl (step program cloud mounter) (Queue.start (.start world))

end Dispatch
end BlockVolume.Node
