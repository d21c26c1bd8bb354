import BlockVolume.Operation.Execute
import BlockVolume.Proofs.Operation.AttachOrder
import BlockVolume.Proofs.Operation.DetachParts
/-!
All that an attach or a detach may ask.

Both look at the disk and inspect the host. An attach changes something by two more questions, and
a detach by two others; each of them is fixed by the request and the target but for the client, and for
the name under which the host knows the device.
-/

namespace BlockVolume.Operation

open BlockVolume.Cloud (Client)
open BlockVolume.Program
open BlockVolume.Volume (Request)

variable {setting : Setting} {request : Request} {target : Path} {question : Ask}

/-- The mount options that a request asks for. -/
def mountOptions (request : Request) : List String := if request.readOnly then ["ro"] else []

/-- The questions of an attach. -/
inductive AttachAsk (request : Request) (target : Path) : Ask → Prop where
  | look {question : Ask} (h : question.isLooking) : AttachAsk request target question
  | inspect {question : Ask} (h : question.isInspecting) : AttachAsk request target question
  | attach (api : Api) : AttachAsk request target (.cloud (.attach api request.disk request.node))
  | formatAndMount (device : Path) :
      AttachAsk request target
        (.mounter (.formatAndMount device target request.fsType.name (mountOptions request)))

/-- The questions of a detach. -/
inductive DetachAsk (request : Request) (target : Path) : Ask → Prop where
  | look {question : Ask} (h : question.isLooking) : DetachAsk request target question
  | inspect {question : Ask} (h : question.isInspecting) : DetachAsk request target question
  | detach (api : Api) : DetachAsk request target (.cloud (.detach api request.disk request.node))
  | unmount : DetachAsk request target (.mounter (.unmount target (some forceUnmountAfterMs)))

/-! ### The parts -/

theorem only_onHost {α : Type} {kind : Ask → Prop} {doing : String}
    {reply : Except Mount.MountError α} : Only kind (setting.onHost doing reply).run := by
  cases reply <;> exact only_pure _

/-- Mounting a device inspects the host and asks for the mount. -/
theorem only_mountDevice {disk : Cloud.Disk} {kind : Ask → Prop}
    (inspects : ∀ question, question.isInspecting → kind question)
    (mounts : ∀ device, kind
      (.mounter (.formatAndMount device target request.fsType.name (mountOptions request)))) :
    Only kind (mountDevice setting request disk target).run := by
  rw [mountDevice]
  split
  · exact only_pure _
  · have found : Only kind (hostDevice disk.device) :=
      fun _ _ h e he => inspects _ ((history_hostDevice h).1 e he)
    refine Only.step_bind (Only.lift found) fun device => ?_
    refine Only.step_bind (Only.lift (only_query (inspects _ rfl))) fun created => ?_
    refine Only.step_bind only_onHost fun _ => ?_
    refine Only.step_bind (Only.lift (only_query (inspects _ rfl))) fun looked => ?_
    refine Only.step_bind only_onHost fun mounted => ?_
    cases mounted with
    | some mounted =>
      dsimp only
      split <;> exact only_pure _
    | none =>
      refine Only.step_bind (Only.lift (only_query (inspects _ rfl))) fun bare => ?_
      rcases bare with failure | _ | _
      · exact only_pure _
      · exact only_pure _
      · exact Only.step_bind (Only.lift (only_query (mounts device))) fun _ => only_onHost

/-- A call asks for it, and for what is asked when one looks. -/
theorem only_call {α : Type} {call : ControlCall α} {client : Client} {kind : Ask → Prop}
    (looks : ∀ question, question.isLooking → kind question)
    (calls : ∀ api reply, kind (call.exchange api reply).question) :
    Only kind (setting.call call.make client).run := by
  intro es outcome h e he
  rcases asks_of_call h e he with hk | ⟨ms, hk⟩ | ⟨api, reply, rfl⟩
  · exact looks _ (Ask.isLooking_of_isCredential hk)
  · exact looks _ (by rw [hk]; rfl)
  · exact calls api reply

/-! ### The operations -/

theorem only_attach : Only (AttachAsk request target) (attach setting request target).run := by
  have looks {α : Type} {p : NodeProgram α} (h : Only (·.isLooking) p) :
      Only (AttachAsk request target) p := fun _ _ hp e he => .look (h hp e he)
  have watches (client : Client) : Only (AttachAsk request target) (ExceptT.run
      (setting.waitFor request.region "attached" (·.isSettledOn request.node) client >>=
        fun found => mountDevice setting request found.2 target)) :=
    Only.step_bind (looks only_waitFor) fun _ =>
      only_mountDevice (fun _ => .inspect) .formatAndMount
  refine Only.step_bind (looks only_connect) fun client => ?_
  refine Only.step_bind (looks only_describe) fun found => ?_
  obtain ⟨client, disk⟩ := found
  dsimp only
  split
  · exact watches client
  · refine Only.step_bind (x := setting.call (ControlCall.attach request.disk request.node).make
      client) (only_call (fun _ => .look) fun api _ => .attach api) fun called => ?_
    exact watches called.1

theorem only_detach : Only (DetachAsk request target) (detach setting request target).run := by
  have looks {α : Type} {p : NodeProgram α} (h : Only (·.isLooking) p) :
      Only (DetachAsk request target) p := fun _ _ hp e he => .look (h hp e he)
  have unmounts : Only (DetachAsk request target) (unmountTarget setting target).run :=
    only_unmounting (.inspect rfl) .unmount
  have lists (own devices : List Path) : Only (DetachAsk request target)
      (mountsElsewhere setting own devices).run := fun _ _ h e he => by
    obtain ⟨device, asked⟩ := only_mountsElsewhere _ _ h e he
    exact .inspect (by rw [asked]; rfl)
  rw [detach_eq]
  refine Only.step_bind (looks only_findDisk) fun found => ?_
  rcases detachFound_cases setting request target found with
    ⟨unmounted, -⟩ | ⟨client, disk, -, -, held⟩
  · rw [unmounted]
    exact unmounts
  · rw [held]
    refine Only.step_bind (Only.lift (only_query (.inspect rfl))) fun own => ?_
    refine Only.step_bind (lists _ _) fun busy => ?_
    split
    · refine Only.step_bind unmounts fun _ => ?_
      refine Only.step_bind (x := setting.call (ControlCall.detach request.disk request.node).make
        client) (only_call (fun _ => .look) fun api _ => .detach api) fun called => ?_
      exact Only.step_bind (looks only_waitFor) fun _ => only_pure _
    · exact only_pure _

/-- The questions of an action. -/
def ActionAsk (request : Request) (target : Path) : Action → Ask → Prop
  | .attach => AttachAsk request target
  | .detach => DetachAsk request target

/-- What an action asks is told by the request and the target. -/
theorem only_execute {attacher : Attacher} {action : Action} :
    Only (ActionAsk request target action) (attacher.execute action request target) := by
  refine Only.bind ?_ fun result => only_pure _
  cases action with
  | attach => exact only_attach
  | detach => exact only_detach

end BlockVolume.Operation
