import BlockVolume.Mount.Ledger
import BlockVolume.Mount.System
import BlockVolume.Node.World
/-!
A bench of scripted tools, on which the host's mounter can be run.

The tools stand in the working directory, where programs are looked for; each gives its replies in
order, and ends well and silently after the last one.
-/

namespace BlockVolume.Rehearsal

open BlockVolume.Host (Failure FileTree)
open BlockVolume.Mount
open BlockVolume.Node (MounterModel)
open BlockVolume.Text (Bytes)

/-- What a tool does when it is run: end, or run on until it is killed. -/
structure ToolReply where
  ending : Option Ending
  output : Bytes
  errors : Bytes

/-- Scripted tools. -/
structure Bench where
  /-- The tools there are. -/
  tools : List String
  replies : List (String × List ToolReply)
  /-- What the kernel's mount table holds. -/
  table : Bytes
  /-- The tools that were run with their arguments, the latest first. -/
  log : List (List String)

namespace Bench

/-- The signal that kills. -/
def killSignal : Nat := 9

/-- The working directory. -/
def directory (bench : Bench) : FileTree := ⟨bench.tools.map fun name => ([name], .file)⟩

/-- The tool that a program name or a path from the working directory means. Nothing that an
absolute path leads to can be run. -/
def find (bench : Bench) (tree : FileTree) (program : String) : Except Failure String :=
  if Path.isAbsolute ⟨program⟩ then
    match tree.locate true ⟨program⟩ with
    | .ok _ => .error (.system .denied)
    | .error failure => .error failure
  else
    match bench.directory.locate true ⟨program⟩ with
    | .ok [name] => .ok name
    | .ok _ => .error (.system .denied)
    | .error failure => .error failure

/-- Starts a tool. -/
def start (bench : Bench) (tree : FileTree) (command : Command) :
    Except Failure ToolReply × Bench :=
  if (command.program :: command.arguments).any fun text => text.toList.contains '\x00' then
    (.error .nulInArgument, bench)
  else
    match bench.find tree command.program with
    | .error failure => (.error failure, bench)
    | .ok name =>
      let replies := (bench.replies.lookup name).getD []
      (.ok (replies.head?.getD ⟨some (.exited 0), [], []⟩),
        { bench with
          replies := bench.replies.map fun (other, list) =>
            if other = name then (other, list.drop 1) else (other, list)
          log := (name :: command.arguments) :: bench.log })

/-- Answers a question of the mounter on a host. -/
def answer (tree : FileTree) (question : ToolAsk) (bench : Bench) : question.Answer × Bench :=
  match question with
  | .run command =>
    match bench.start tree command with
    | (.error failure, bench) => (⟨.notStarted failure, [], []⟩, bench)
    | (.ok reply, bench) =>
      (⟨reply.ending.getD (.killed killSignal), reply.output, reply.errors⟩, bench)
  | .runFor command _ =>
    match bench.start tree command with
    | (.error failure, bench) => (some ⟨.notStarted failure, [], []⟩, bench)
    | (.ok reply, bench) =>
      (reply.ending.map fun ending => ⟨ending, reply.output, reply.errors⟩, bench)
  | .readTable => (.ok bench.table, bench)

/-- Runs a step of the mounter on a host. -/
def run {α : Type} (tree : FileTree) (step : SystemStep α) (bench : Bench) :
    Except MountError α × Bench :=
  Program.run (answer tree) step.run bench

end Bench

/-- The program of the host's mounter that answers a question. -/
def systemAnswer (mounter : SystemMounter) (tree : FileTree) :
    (question : MountAsk) → ToolProgram question.Answer
  | .refs device =>
    (do return (← SystemMounter.list).refs device : SystemStep (List Path)).run
  | .deviceAt target =>
    (do return (← SystemMounter.list).deviceAt (Ledger.lookupPath tree target) :
      SystemStep (Option (Path × Nat))).run
  | .countAt target =>
    (do return (← SystemMounter.list).countAt (Ledger.lookupPath tree target) :
      SystemStep Nat).run
  | .unmount target forceAfter => (SystemMounter.unmount target forceAfter).run
  | .formatAndMount device target kind options =>
    (mounter.primitives.formatAndMount device target kind options).run
  | .mount source target kind options => (mounter.mount source target kind options).run

/-- The host's mounter on a bench. -/
def onBench (mounter : SystemMounter) : MounterModel Bench where
  answer question tree bench :=
    (systemAnswer mounter tree question).run (Bench.answer tree) bench

end BlockVolume.Rehearsal
