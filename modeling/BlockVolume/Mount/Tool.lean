import BlockVolume.Mount.Error
import BlockVolume.Program
import BlockVolume.Text.Quoted
import BlockVolume.Text.Utf8
/-!
The host's mount tools as the surroundings of a program.

A program starts tools and waits for them, without end or for some time, and reads the kernel's
mount table.
-/

namespace BlockVolume.Mount

open BlockVolume.Host (Failure)
open BlockVolume.Text (Bytes quote bracketed)

/-- A program name with its arguments. -/
structure Command where
  program : String
  arguments : List String
  deriving DecidableEq

/-- How a tool ended. -/
inductive Ending where
  | exited (code : Nat)
  | killed (signal : Nat)
  | notStarted (cause : Failure)
  deriving DecidableEq

/-- A tool that ended, with what it wrote. -/
structure ToolRun where
  ending : Ending
  output : Bytes
  errors : Bytes

/-- What a mount program asks of the host. -/
inductive ToolAsk where
  /-- Run a tool to its end. -/
  | run (command : Command)
  /-- Run a tool for some milliseconds, and kill it if it has not ended by then. -/
  | runFor (command : Command) (ms : Nat)
  /-- Read the kernel's mount table. -/
  | readTable

/-- The answers: no run where the tool had to be killed. -/
abbrev ToolAsk.Answer : ToolAsk → Type
  | .run _ => ToolRun
  | .runFor _ _ => Option ToolRun
  | .readTable => Except Failure Bytes

/-- A program that uses mount tools. -/
abbrev ToolProgram := Program ToolAsk.Answer

/-- Asks the host. -/
def ToolAsk.ask (question : ToolAsk) : ToolProgram question.Answer := .query question

/-- A command with its arguments, each quoted. -/
def Command.describe (command : Command) : String :=
  "command " ++ bracketed ((command.program :: command.arguments).map quote)

/-- The failure of a tool that did not end well. -/
def Ending.failure? (command : Command) : Ending → Option Failure
  | .exited 0 => none
  | .exited code => some (.told (command.describe ++ " exited with code " ++ toString code))
  | .killed signal =>
    some (.told (command.describe ++ " exited with code <signal " ++ toString signal ++ ">"))
  | .notStarted cause => some cause

/-- An ending as the status number of a wait: the exit code above eight bits of signal. -/
def Ending.status : Ending → Nat
  | .exited code => code * 256
  | .killed signal => signal
  | .notStarted _ => 0

/-- Runs a tool that has to end well. -/
def Command.run (command : Command) : ExceptT Failure ToolProgram Unit := do
  let ended ← (ToolAsk.run command).ask
  match ended.ending.failure? command with
  | none => pure ()
  | some failure => throw failure

end BlockVolume.Mount
