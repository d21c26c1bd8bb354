import BlockVolume.Cloud.ApiError
import BlockVolume.Cloud.Disk
import BlockVolume.Http.Answer
import BlockVolume.Json.Record
/-!
What the control plane's answers to calls mean.

A successful status must come with a document of the expected shape. Any other status is a refusal
if its document has an error code; all else counts as not reaching the control plane.
-/

namespace BlockVolume.Cloud

open BlockVolume.Json (Value)
open BlockVolume.Text (Bytes)

/-- Reads a refusal. -/
def parseRefusal (value : Value) : Except Json.Error ApiError := do
  let found ← value.fields ["RequestId", "Code", "Message"]
  let requestId ← found.optional "RequestId" Value.asText ""
  let code ← found.required "Code" Value.asText
  let message ← found.optional "Message" Value.asText ""
  return .service code message requestId

/-- Reads a listed disk. -/
def parseDisk (value : Value) : Except Json.Error Disk := do
  let found ← value.fields ["DiskId", "Status", "InstanceId", "Device", "Category", "ZoneId"]
  let id ← found.required "DiskId" Value.asText
  let status ← found.required "Status" Value.asText
  let holder ← found.optional "InstanceId" Value.asText ""
  let device ← found.optional "Device" Value.asText ""
  let category ← found.optional "Category" Value.asText ""
  let zone ← found.optional "ZoneId" Value.asText ""
  return { id, status := DiskStatus.ofWord status, holder, device, category, zone }

/-- Reads a list of disks. -/
def parseDisks (value : Value) : Except Json.Error (List Disk) := do
  let found ← value.fields ["Disks"]
  found.required "Disks" fun disks => do
    let found ← disks.fields ["Disk"]
    found.optional "Disk" (Value.asList parseDisk) []

/-- Takes any document. -/
def parseNothing (_ : Value) : Except Json.Error Unit := .ok ()

/-- What an answer means, where a success carries a document that `parse` reads. -/
def resultOf {α : Type} (parse : Value → Except Json.Error α) : Http.Answer → Except ApiError α
  | .closed => .error (.transport Http.closedText)
  | .cutShort _ => .error (.transport Http.cutShortText)
  | .full status body =>
    if Http.isSuccess status then
      match Json.read body >>= parse with
      | .ok value => .ok value
      | .error e => .error (.transport ("malformed response: " ++ e.message))
    else
      match Json.read body >>= parseRefusal with
      | .ok refusal => .error refusal
      | .error _ =>
        .error (.transport ("HTTP " ++ Http.statusText status ++ ": " ++
          Text.Utf8.toStringLossy body))

/-- The answer to a call that attaches or detaches a disk. -/
def changeResult (answer : Http.Answer) : Except ApiError Unit :=
  resultOf parseNothing answer

/-- The disk with an id in the answer to a call that looks it up. -/
def describeResult (disk : String) (answer : Http.Answer) : Except ApiError (Option Disk) :=
  (resultOf parseDisks answer).map fun disks => disks.find? (·.id == disk)

end BlockVolume.Cloud
