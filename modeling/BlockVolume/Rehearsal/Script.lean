import BlockVolume.Mount.Ledger
import BlockVolume.Node.World
/-!
Scripted surroundings: a cloud that answers from lists, and a mounter that keeps books and fails
where it is told to.
-/

namespace BlockVolume.Rehearsal

open BlockVolume.Cloud (ApiError Credentials Disk)
open BlockVolume.Mount (Ledger MountError)
open BlockVolume.Node (CloudModel MounterModel)
open BlockVolume.Operation (Action)

/-- Answers to one kind of call: for single disks, and for all others. -/
structure Replies (α : Type) where
  ofDisk : List (String × List α)
  shared : List α

namespace Replies

variable {α : Type}

/-- Takes the next answer from the list of the disk, and from the shared list once nothing is left
there. -/
def next (replies : Replies α) (disk : String) : Option α × Replies α :=
  match replies.ofDisk.lookup disk with
  | some (reply :: rest) =>
    (some reply,
      { replies with
        ofDisk := replies.ofDisk.map fun (id, list) =>
          if id = disk then (id, rest) else (id, list) })
  | _ => (replies.shared.head?, { replies with shared := replies.shared.drop 1 })

end Replies

/-- An answer of the control plane, and how long it takes. -/
structure Reply (α : Type) where
  result : Except ApiError α
  ms : Nat

/-- A scripted cloud. -/
structure Script where
  /-- What each metadata resource gives, look after look, the last one staying. -/
  metadata : List (String × List (Option String))
  /-- Which of the next clients cannot be built. -/
  refusals : List Bool
  describes : Replies (Reply (Option Disk))
  attaches : Replies (Reply Unit)
  detaches : Replies (Reply Unit)

namespace Script

/-- A script with nothing written in it. -/
def quiet : Script := ⟨[], [], ⟨[], []⟩, ⟨[], []⟩, ⟨[], []⟩⟩

/-- Looks a resource up. -/
def lookUp (resource : String) (script : Script) : Option String × Script :=
  match script.metadata.lookup resource with
  | some (value :: next :: rest) =>
    (value,
      { script with
        metadata := script.metadata.map fun (name, values) =>
          if name = resource then (name, next :: rest) else (name, values) })
  | some [value] => (value, script)
  | _ => (none, script)

/-- A scripted cloud in which no disk is there, and any change is accepted, where the script ends.
-/
def cloud : CloudModel Script where
  metadata := lookUp
  accepts _ script :=
    (script.refusals.head? != some true, { script with refusals := script.refusals.drop 1 })
  describe _ _ disk script :=
    let (reply, describes) := script.describes.next disk
    let reply := reply.getD ⟨.ok none, 0⟩
    ((reply.result.map fun found => found.map fun d => { d with id := disk }, reply.ms),
      { script with describes })
  change action _ disk _ script :=
    match action with
    | .attach =>
      let (reply, attaches) := script.attaches.next disk
      let reply := reply.getD ⟨.ok (), 0⟩
      ((reply.result, reply.ms), { script with attaches })
    | .detach =>
      let (reply, detaches) := script.detaches.next disk
      let reply := reply.getD ⟨.ok (), 0⟩
      ((reply.result, reply.ms), { script with detaches })

end Script

/-- The kinds of questions to a mounter. -/
inductive MountCall where | refs | deviceAt | countAt | unmount | formatAndMount | mount
  deriving DecidableEq

/-- The kind of a question. -/
def MountCall.of : MountAsk → MountCall
  | .refs _ => .refs
  | .deviceAt _ => .deviceAt
  | .countAt _ => .countAt
  | .unmount _ _ => .unmount
  | .formatAndMount _ _ _ _ => .formatAndMount
  | .mount _ _ _ _ => .mount

/-- An answer that is an error. -/
def refuse (e : MountError) : (question : MountAsk) → question.Answer
  | .refs _ => .error e
  | .deviceAt _ => .error e
  | .countAt _ => .error e
  | .unmount _ _ => .error e
  | .formatAndMount _ _ _ _ => .error e
  | .mount _ _ _ _ => .error e

/-- Answers a question from the books. -/
def answerFromBooks (question : MountAsk) (tree : Host.FileTree) (ledger : Ledger) :
    question.Answer × Ledger :=
  match question with
  | .refs device => (.ok (ledger.table.refs device), ledger)
  | .deviceAt target => (.ok (ledger.table.deviceAt (Ledger.lookupPath tree target)), ledger)
  | .countAt target => (.ok (ledger.table.countAt (Ledger.lookupPath tree target)), ledger)
  | .unmount target _ => (.ok (), ledger.unmount target)
  | .formatAndMount device target kind options =>
    ledger.formatAndMount device target kind options
  | .mount source target kind options => ledger.mount source target kind options

/-- A mounter that keeps books. -/
def bookkeeper : MounterModel Ledger where
  answer := answerFromBooks

/-- Books, and which of the next calls fail before they reach them. -/
structure FaultyLedger where
  ledger : Ledger
  faults : List (MountCall × List (Option MountError))

/-- A mounter that keeps books and fails where it is told to. -/
def faultyBookkeeper : MounterModel FaultyLedger where
  answer question tree faulty :=
    let call := MountCall.of question
    let rest := { faulty with
      faults := faulty.faults.map fun (other, list) =>
        if other = call then (other, list.drop 1) else (other, list) }
    match (faulty.faults.lookup call).bind List.head? with
    | some (some e) => (refuse e question, rest)
    | _ =>
      let (result, ledger) := answerFromBooks question tree faulty.ledger
      (result, { rest with ledger })

end BlockVolume.Rehearsal
