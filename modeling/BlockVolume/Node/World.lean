import BlockVolume.Host.Target
import BlockVolume.Lock.Table
import BlockVolume.Operation.Error
/-!
Surroundings as a value: the state of the cloud, the mounter and the host, with a clock, and a log
of what operations did.

How the cloud and the mounter answer is a parameter, so the same world serves a scripted cloud, one
behind HTTP, and one of which nothing is known.
-/

namespace BlockVolume.Node

open BlockVolume.Cloud (ApiError Credentials Disk)
open BlockVolume.Host (FileTree)
open BlockVolume.Operation (Action)

/-- What an operation did, as its surroundings saw it. -/
inductive Event where
  | metadata (resource : String)
  /-- A client was built, or was not. -/
  | client (credentials : Credentials) (isBuilt : Bool)
  | describe (disk region keyId : String) (ms : Nat)
  | change (action : Action) (disk node keyId : String) (ms : Nat)
  | mounter (question : MountAsk)
  /-- Somebody looked at the node. -/
  | observed (text : String)

/-- How a cloud answers, and how long it takes. -/
structure CloudModel (σ : Type) where
  metadata : (resource : String) → σ → Option String × σ
  /-- A client can be built. -/
  accepts : Credentials → σ → Bool × σ
  describe : Credentials → (region disk : String) → σ → (Except ApiError (Option Disk) × Nat) × σ
  change : Action → Credentials → (disk node : String) → σ → (Except ApiError Unit × Nat) × σ

/-- How a mounter answers on a host. -/
structure MounterModel (μ : Type) where
  answer : (question : MountAsk) → FileTree → μ → question.Answer × μ

/-- Surroundings. -/
structure World (σ μ : Type) where
  now : Nat
  cloud : σ
  mounter : μ
  tree : FileTree
  /-- The credentials of the clients built so far, in order. -/
  clients : List Credentials
  /-- The locks, claimed under the numbers of operations. -/
  locks : Lock.Table Nat
  /-- What was done, the latest first. -/
  log : List Event

namespace World

variable {σ μ : Type}

/-- Surroundings in which nothing has happened. -/
def start (cloud : σ) (mounter : μ) (tree : FileTree) : World σ μ :=
  ⟨0, cloud, mounter, tree, [], .empty, []⟩

/-- What was done, in order. -/
def events (world : World σ μ) : List Event := world.log.reverse

/-- Writes an event down. -/
def record (world : World σ μ) (event : Event) : World σ μ :=
  { world with log := event :: world.log }

/-- Forgets the events. -/
def clearLog (world : World σ μ) : World σ μ := { world with log := [] }

/-- Lets time pass. -/
def pass (world : World σ μ) (ms : Nat) : World σ μ := { world with now := world.now + ms }

/-- The credentials behind a client handle. -/
def credentialsOf (world : World σ μ) (api : Api) : Credentials :=
  (world.clients[api.serial]?).getD .none

/-- Answers a question to the cloud, with the time it takes. -/
def answerCloud (cloud : CloudModel σ) (question : CloudAsk) (world : World σ μ) :
    question.Answer × Nat × World σ μ :=
  match question with
  | .metadata resource =>
    let (value, state) := cloud.metadata resource world.cloud
    (value, 0, { world with cloud := state }.record (.metadata resource))
  | .client credentials =>
    let (isBuilt, state) := cloud.accepts credentials world.cloud
    let world := { world with cloud := state }.record (.client credentials isBuilt)
    if isBuilt then
      (some ⟨world.clients.length⟩, 0, { world with clients := world.clients ++ [credentials] })
    else (none, 0, world)
  | .describe api region disk =>
    let credentials := world.credentialsOf api
    let ((result, ms), state) := cloud.describe credentials region disk world.cloud
    (result, ms,
      { world with cloud := state }.record (.describe disk region credentials.id world.now))
  | .attach api disk node =>
    let credentials := world.credentialsOf api
    let ((result, ms), state) := cloud.change .attach credentials disk node world.cloud
    (result, ms,
      { world with cloud := state }.record (.change .attach disk node credentials.id world.now))
  | .detach api disk node =>
    let credentials := world.credentialsOf api
    let ((result, ms), state) := cloud.change .detach credentials disk node world.cloud
    (result, ms,
      { world with cloud := state }.record (.change .detach disk node credentials.id world.now))

/-- Answers a question about the file tree. -/
def answerTree (question : TreeAsk) (world : World σ μ) : question.Answer × World σ μ :=
  match question with
  | .isPresent path => (world.tree.isPresent path, world)
  | .canonical path => (world.tree.canonical? path, world)
  | .createTarget path =>
    let (result, tree) := world.tree.createTarget path
    (result, { world with tree })
  | .isEmptyDirectory path => (world.tree.isEmptyDirectory path, world)

/-- The longest wait in milliseconds — thirty years of 365 days. -/
def longestWait : Nat := 30 * 365 * 24 * 60 * 60 * 1000

/-- Answers a question of operation `self`, with the wait that it brings, which may be over at once.
A lock is claimed, and whoever runs the operation sees to the waiting. -/
def answer (cloud : CloudModel σ) (mounter : MounterModel μ) (self : Nat) (question : Ask)
    (world : World σ μ) : question.Answer × Option Nat × World σ μ :=
  match question with
  | .cloud question =>
    let (result, ms, world) := world.answerCloud cloud question
    (result, if ms = 0 then none else some (min ms longestWait), world)
  | .mounter question =>
    let (result, state) := mounter.answer question world.tree world.mounter
    (result, none, { world with mounter := state }.record (.mounter question))
  | .tree question =>
    let (result, world) := world.answerTree question
    (result, none, world)
  | .sleep ms => ((), some (min ms longestWait), world)
  | .acquire key => ((), some 0, { world with locks := world.locks.start self key })
  | .release _ => ((), none, { world with locks := world.locks.release self })

/-- Answers a question of an operation that runs alone, letting the time of the wait pass. -/
def reply (cloud : CloudModel σ) (mounter : MounterModel μ) (question : Ask)
    (world : World σ μ) : question.Answer × World σ μ :=
  let (result, wait, world) := world.answer cloud mounter 0 question
  (result, world.pass (wait.getD 0))

/-- Runs an operation alone. -/
def run (cloud : CloudModel σ) (mounter : MounterModel μ) {α : Type} (program : NodeProgram α)
    (world : World σ μ) : α × World σ μ :=
  program.run (reply cloud mounter) world

end World
end BlockVolume.Node
