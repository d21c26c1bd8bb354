import BlockVolume.Cloud.Endpoints
import BlockVolume.Cloud.Reply
import BlockVolume.Http.Target
import BlockVolume.Node.World
/-!
A cloud behind HTTP, with a server that answers from lists.
-/

namespace BlockVolume.Rehearsal

open BlockVolume.Cloud
open BlockVolume.Node (CloudModel)
open BlockVolume.Operation (Action)

/-- The answers of a service. -/
inductive Supply where
  /-- Answers by name, the last one of a name staying, and one for all other names. -/
  | named (answers : List (String × List Http.Answer)) (other : Http.Answer)
  /-- One answer for each request, and "not found" after the last one. -/
  | inOrder (answers : List Http.Answer)

/-- What is not there. -/
def notFound : Http.Answer := .full 404 []

/-- Takes the answer to a request by its name. -/
def Supply.next (name : String) : Supply → Http.Answer × Supply
  | .inOrder answers => (answers.head?.getD notFound, .inOrder (answers.drop 1))
  | .named answers other =>
    match answers.lookup name with
    | some (answer :: later :: rest) =>
      (answer,
        .named (answers.map fun (key, list) =>
          if key = name then (key, later :: rest) else (key, list)) other)
    | some [answer] => (answer, .named answers other)
    | _ => (other, .named answers other)

/-- A scripted server for metadata and control plane. -/
structure Server where
  /-- Answers to metadata requests, by resource. -/
  metadata : Supply
  /-- Answers to calls, by action. -/
  control : Supply
  /-- The targets of metadata requests, the latest first. -/
  metadataLog : List String
  /-- The targets of calls, the latest first. -/
  callLog : List String
  /-- How many calls were made. -/
  count : Nat

/-- A stamp that no other call of a server has. -/
def stampOf (count : Nat) : Stamp :=
  ⟨nonceOf ((List.range 16).map fun i => UInt8.ofNat (count >>> (8 * i))), timestampOf count⟩

namespace Server

/-- A server before its first request. -/
def start (metadata control : Supply) : Server := ⟨metadata, control, [], [], 0⟩

/-- Forgets the requests. -/
def clearLog (server : Server) : Server := { server with metadataLog := [], callLog := [] }

/-- Answers the call to an action, made at the URL for a stamp. -/
def call (action : String) (url : Stamp → String) (server : Server) : Http.Answer × Server :=
  let (answer, control) := server.control.next action
  (answer,
    { server with
      control
      callLog := Http.requestTarget (url (stampOf server.count)) :: server.callLog
      count := server.count + 1 })

/-- The cloud behind a server. -/
def cloud (endpoints : Endpoints) : CloudModel Server where
  metadata resource server :=
    let (answer, metadata) := server.metadata.next resource
    (answer.text?,
      { server with
        metadata
        metadataLog := Http.requestTarget (endpoints.metadataUrl resource) :: server.metadataLog })
  accepts credentials server := (!credentials.isEmpty, server)
  describe credentials region disk server :=
    let (answer, server) := server.call "DescribeDisks"
      fun stamp => endpoints.describeUrl credentials stamp region disk
    ((describeResult disk answer, 0), server)
  change action credentials disk node server :=
    let (answer, server) := match action with
      | .attach => server.call "AttachDisk" (endpoints.attachUrl credentials · disk node)
      | .detach => server.call "DetachDisk" (endpoints.detachUrl credentials · disk node)
    ((changeResult answer, 0), server)

end Server
end BlockVolume.Rehearsal
