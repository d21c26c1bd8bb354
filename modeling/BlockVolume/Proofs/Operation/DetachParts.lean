import BlockVolume.Operation.Detach
import BlockVolume.Proofs.Mount.Table
import BlockVolume.Proofs.Node.Frame
import BlockVolume.Proofs.Operation.Parts
import BlockVolume.Rehearsal.Script
import Mathlib
/-!
The parts of a detach.

A detach looks for its disk first, and what it does then depends on what it has found. A disk that is
with the node is detached, unless its device is mounted beside the target: the mounts are listed, the
target is unmounted, and then the disk is detached and watched. `detach_eq` and `detachFound_cases` take
a detach apart in this way, and each part has its questions and what it comes to in the books.
-/

namespace BlockVolume.Operation

open BlockVolume.Cloud (ApiError Client Disk)
open BlockVolume.Host (FileTree)
open BlockVolume.Mount (Ledger MountPoint MountTable)
open BlockVolume.Node (CloudModel World)
open BlockVolume.Program
open BlockVolume.Rehearsal (bookkeeper)
open BlockVolume.Volume (Request)

variable {σ : Type} {setting : Setting} {request : Request} {target path : Path} {client : Client}
  {disk : Disk} {region : String} {found : Option (Client × Disk)}

/-! ### Taking a detach apart -/

/-- Gets a client and looks for the disk. -/
def findDisk (setting : Setting) (region : String) : Step (Option (Client × Disk)) := do
  let client ← setting.connect
  describe? setting region client

/-- Unmounts the target, has the disk detached and watches it. -/
def unmountAndDetach (setting : Setting) (request : Request) (target : Path) (client : Client) :
    Step Unit := do
  unmountTarget setting target
  let (client, ()) ← setting.call
    (fun api => (CloudAsk.detach api request.disk request.node).ask) client
  let _ ← setting.waitFor request.region "detached" (·.isFreeOf request.node) client
  pure ()

/-- Detaches a disk that is with the node, unless its device is mounted elsewhere. -/
def detachHeld (setting : Setting) (request : Request) (target : Path) (client : Client)
    (disk : Disk) : Step Unit := do
  let own := target :: (← (TreeAsk.canonical target).ask).toList
  let busy ← mountsElsewhere setting own (deviceNames disk.device)
  if busy.isEmpty then unmountAndDetach setting request target client
  else setting.fail (.deviceBusy busy)

/-- What a detach does once it has looked for its disk. -/
def detachFound (setting : Setting) (request : Request) (target : Path) :
    Option (Client × Disk) → Step Unit
  | none => unmountTarget setting target
  | some (client, disk) =>
    if disk.isFreeOf request.node then unmountTarget setting target
    else detachHeld setting request target client disk

theorem detach_eq (setting : Setting) (request : Request) (target : Path) :
    detach setting request target =
      findDisk setting request.region >>= detachFound setting request target := by
  rw [findDisk, step_bind_assoc]
  refine congrArg (setting.connect >>= ·) (funext fun client => ?_)
  refine congrArg (describe? setting request.region client >>= ·) (funext fun found => ?_)
  cases found <;> rfl

/-- Where no disk is found with the node, there is only the target to be unmounted. -/
theorem detachFound_cases (setting : Setting) (request : Request) (target : Path)
    (found : Option (Client × Disk)) :
    (detachFound setting request target found = unmountTarget setting target ∧
      ∀ client disk, found = some (client, disk) → disk.isFreeOf request.node = true) ∨
    ∃ client disk, found = some (client, disk) ∧ disk.isFreeOf request.node = false ∧
      detachFound setting request target found = detachHeld setting request target client disk := by
  rcases found with _ | ⟨client, disk⟩
  · exact .inl ⟨rfl, fun _ _ same => by cases same⟩
  cases free : disk.isFreeOf request.node with
  | true =>
    refine .inl ⟨if_pos free, fun other disk' same => ?_⟩
    obtain ⟨rfl, rfl⟩ := Prod.mk.inj (Option.some.inj same)
    exact free
  | false => exact .inr ⟨client, disk, rfl, free, if_neg (Bool.eq_false_iff.mp free)⟩

/-! ### What the parts ask -/

theorem only_describe? : Only (·.isLooking) (describe? setting region client).run := by
  refine Only.bind only_describe fun found => ?_
  split <;> exact only_pure _

theorem only_findDisk : Only (·.isLooking) (findDisk setting region).run :=
  Only.step_bind only_connect fun _ => only_describe?

theorem only_mountsElsewhere (own devices : List Path) :
    Only (fun question => ∃ device, question = .mounter (.refs device))
      (mountsElsewhere setting own devices).run := by
  induction devices with
  | nil => exact only_pure _
  | cons device devices ih =>
    refine Only.step_bind (Only.lift (only_query ⟨device, rfl⟩)) fun refs => ?_
    refine Only.step_bind (by cases refs <;> exact only_pure _) fun refs => ?_
    exact Only.step_bind ih fun others => only_pure _

theorem isHost_mountsElsewhere (own devices : List Path) :
    Only (·.isHost) (mountsElsewhere setting own devices).run := by
  intro es outcome h e he
  obtain ⟨device, asked⟩ := only_mountsElsewhere own devices h e he
  rw [asked]
  rfl

/-- Unmounting the target counts the mounts there, and asks for the unmount. -/
theorem only_unmounting {kind : Ask → Prop} (counts : kind (.mounter (.countAt target)))
    (unmounts : kind (.mounter (.unmount target (some forceUnmountAfterMs)))) :
    Only kind (unmountTarget setting target).run := by
  refine Only.step_bind (Only.lift (only_query counts)) fun count => ?_
  refine Only.step_bind (by cases count <;> exact only_pure _) fun count => ?_
  split
  · exact only_pure _
  · refine Only.step_bind (Only.lift (only_query unmounts)) fun reply => ?_
    cases reply <;> exact only_pure _

theorem only_unmountTarget : Only (·.isHost) (unmountTarget setting target).run :=
  only_unmounting rfl rfl

/-! ### What the looks tell -/

section Look

variable {es : List (Exchange Ask.Answer)}

/-- The control plane does not say that a disk is unknown by an error. -/
theorem Settled.ne_diskNotFound {α : Type} {policy : RetryPolicy}
    {answers : List (Except ApiError α)} {region : String} :
    ¬Settled policy answers (.error (.diskNotFound region)) := by
  rintro ⟨before, last, -, hl, -⟩
  cases last with
  | ok value => cases hl
  | error e =>
    cases hc : e.errorClass <;> simp [verdict, hc] at hl

/-- The disk is unknown if the last look has found none, and else it is what that look has found. No
look before has found anything. -/
theorem looks_describe? (h : History (describe? setting region client).run es (.ok found)) :
    ∃ before, looks es = before ++ [.ok (found.map Prod.snd)] ∧
      ∀ reply ∈ before, reply.toOption = none := by
  obtain ⟨before, described, after, rfl, hd, ha⟩ := history_bind.mp h
  obtain ⟨-, result, hs, heq⟩ := looks_describe hd
  split at ha
  case h_1 found =>
    obtain ⟨rfl, same⟩ := history_pure.mp ha
    obtain rfl := Except.ok.inj same
    rw [List.append_nil]
    exact looks_describe_ok hd
  case h_2 =>
    obtain ⟨rfl, same⟩ := history_pure.mp ha
    obtain rfl := Except.ok.inj same
    match result, heq with
    | .ok none, _ =>
      rw [List.append_nil]
      exact hs.of_ok
    | .error problem, heq =>
      obtain ⟨-, rfl⟩ := OperationError.failed.inj (Except.error.inj heq)
      exact absurd hs Settled.ne_diskNotFound
  case h_3 =>
    obtain ⟨-, same⟩ := history_pure.mp ha
    cases same

theorem looks_connect {outcome : Except OperationError Client}
    (h : History setting.connect.run es outcome) : looks es = [] :=
  looks_eq_nil fun e he => Ask.isControl_of_isCredential (asks_connect h e he)

/-- What is found at first is what the last look has found; no look before has found anything. -/
theorem looks_findDisk (h : History (findDisk setting region).run es (.ok found)) :
    ∃ before, looks es = before ++ [.ok (found.map Prod.snd)] ∧
      ∀ reply ∈ before, reply.toOption = none := by
  rcases history_step_bind.mp h with ⟨e, -, same⟩ | ⟨before, client, after, rfl, hc, hd⟩
  · cases same
  · rw [looks_append, looks_connect hc, List.nil_append]
    exact looks_describe? hd

theorem firstFound_findDisk (h : History (findDisk setting region).run es (.ok found)) :
    firstFound es = some (found.map Prod.snd) := by
  obtain ⟨before, split, failed⟩ := looks_findDisk h
  rw [firstFound, split, List.findSome?_append, List.findSome?_eq_none_iff.mpr failed]
  rfl

theorem looks_unmountTarget {outcome : Except OperationError Unit}
    (h : History (unmountTarget setting target).run es outcome) : looks es = [] :=
  looks_eq_nil fun e he => Ask.isControl_of_isHost (only_unmountTarget h e he)

theorem looks_mountsElsewhere {own devices : List Path} {outcome : Except OperationError (List Path)}
    (h : History (mountsElsewhere setting own devices).run es outcome) : looks es = [] :=
  looks_eq_nil fun e he => Ask.isControl_of_isHost (isHost_mountsElsewhere own devices h e he)

end Look

/-! ### Mounts of the device -/

/-- The mount shows the reported device, under one of its names. -/
def shows (reported : String) (point : MountPoint) : Bool :=
  (deviceNames reported).any point.device.same

/-- The path is neither the target nor its link-free form. -/
def isBeside (tree : FileTree) (target path : Path) : Bool :=
  !path.same target && !(tree.canonical? target).any path.same

/-- The paths beside the target at which a reported device is mounted: name by name, and under one
name in the order of the table. -/
def mountsBeside (tree : FileTree) (target : Path) (table : MountTable) (reported : String) :
    List Path :=
  (deviceNames reported).flatMap fun device => (table.refs device).filter (isBeside tree target)

/-- A detach has two paths of its own. -/
theorem isBeside_eq (tree : FileTree) (target path : Path) :
    isBeside tree target path = !(target :: (tree.canonical? target).toList).any path.same := by
  cases h : tree.canonical? target <;> simp [isBeside, h]

theorem mem_mountsBeside {tree : FileTree} {table : MountTable} {reported : String} :
    path ∈ mountsBeside tree target table reported ↔
      ∃ point ∈ table, shows reported point = true ∧ isBeside tree target point.path = true ∧
        point.path = path := by
  simp only [mountsBeside, shows, MountTable.refs, List.mem_flatMap, List.mem_filter, List.mem_map,
    List.any_eq_true]
  constructor
  · rintro ⟨device, named, ⟨point, ⟨listed, same⟩, rfl⟩, beside⟩
    exact ⟨point, listed, ⟨device, named, same⟩, beside, rfl⟩
  · rintro ⟨point, listed, ⟨device, named, same⟩, beside, rfl⟩
    exact ⟨device, named, ⟨point, ⟨listed, same⟩, rfl⟩, beside⟩

theorem mountsBeside_ne_nil {tree : FileTree} {table : MountTable} {reported : String} :
    mountsBeside tree target table reported ≠ [] ↔
      ∃ point ∈ table, shows reported point = true ∧ isBeside tree target point.path = true := by
  constructor
  · intro some
    obtain ⟨path, listed⟩ := List.exists_mem_of_ne_nil _ some
    obtain ⟨point, hp, shown, beside, -⟩ := mem_mountsBeside.mp listed
    exact ⟨point, hp, shown, beside⟩
  · rintro ⟨point, hp, shown, beside⟩
    exact List.ne_nil_of_mem (mem_mountsBeside.mpr ⟨point, hp, shown, beside, rfl⟩)

/-! ### The parts in the books -/

section Books

variable {cloud : CloudModel σ} {w w' : World σ Ledger}
  {ms : List (World σ Ledger × Exchange Ask.Answer)}

theorem asked_findDisk {answer : (q : Ask) → σ → Ask.Answer q × σ} {s s' : σ}
    {ms : List (σ × Exchange Ask.Answer)} {outcome : Except OperationError (Option (Client × Disk))}
    (h : Course answer (findDisk setting region).run s ms outcome s') : Asked (·.isLooking) ms :=
  asked_of_history (only_findDisk h.history)

theorem asked_unmountTarget {answer : (q : Ask) → σ → Ask.Answer q × σ} {s s' : σ}
    {ms : List (σ × Exchange Ask.Answer)} {outcome : Except OperationError Unit}
    (h : Course answer (unmountTarget setting target).run s ms outcome s') : Asked (·.isHost) ms :=
  asked_of_history (only_unmountTarget h.history)

/-- A call leaves the host alone. -/
theorem host_call {α μ : Type} (call : ControlCall α) {mounter : Node.MounterModel μ}
    {w w' : World σ μ} {ms : List (World σ μ × Exchange Ask.Answer)}
    {outcome : Except OperationError (Client × α)}
    (h : Course (World.reply cloud mounter) (setting.call call.make client).run w ms outcome w') :
    (∀ m ∈ ms, m.1.host = w.host) ∧ w'.host = w.host :=
  World.host_course h (asked_of_history (isHost_of_call h.history))

theorem host_mountsElsewhere {own devices : List Path} {outcome : Except OperationError (List Path)}
    (h : Course (World.reply cloud bookkeeper) (mountsElsewhere setting own devices).run w ms
      outcome w') : w'.host = w.host := by
  refine (h.frame World.host fun m hm t => ?_).2
  obtain ⟨device, hd⟩ := only_mountsElsewhere own devices h.history _ (List.mem_map_of_mem hm)
  rw [hd]
  rfl

/-- The books list all mounts of the devices but those at the own paths. -/
theorem course_mountsElsewhere {own devices : List Path} {outcome : Except OperationError (List Path)}
    (h : Course (World.reply cloud bookkeeper) (mountsElsewhere setting own devices).run w ms
      outcome w') :
    outcome = .ok (devices.flatMap fun device =>
      (w.mounter.table.refs device).filter fun path => !own.any path.same) := by
  induction devices generalizing w w' ms outcome with
  | nil => exact (course_pure.mp h).2.1
  | cons device devices ih =>
    obtain ⟨_, reply, u, rest, rfl, hq, h₁⟩ := course_step_lift_bind.mp h
    obtain ⟨rfl, rfl⟩ := Prod.mk.inj ((World.reply_mounter ..).symm.trans (course_query.mp hq).2)
    obtain ⟨e, refused, -⟩ | ⟨refs, listed, h₂⟩ := course_onHost_bind.mp h₁
    · cases refused
    obtain rfl := Except.ok.inj listed
    rcases course_step_bind.mp h₂ with ⟨e, hd, -⟩ | ⟨before, others, v, after, rfl, hd, h₃⟩
    · cases ih hd
    obtain rfl := Except.ok.inj (ih hd)
    exact (course_pure.mp h₃).2.1

/-- The table after the target was unmounted. -/
def unmounted (tree : FileTree) (target : Path) (table : MountTable) : MountTable :=
  if table.countAt (Ledger.lookupPath tree target) = 0 then table else table.removeFirst target

/-- The books never refuse an unmount. -/
theorem course_unmountTarget {outcome : Except OperationError Unit}
    (h : Course (World.reply cloud bookkeeper) (unmountTarget setting target).run w ms outcome w') :
    outcome = .ok () ∧ w'.mounter.table = unmounted w.tree target w.mounter.table := by
  obtain ⟨_, count, u, rest, rfl, hq, h₁⟩ := course_step_lift_bind.mp h
  obtain ⟨-, hc⟩ := course_query.mp hq
  obtain ⟨rfl, rfl⟩ := Prod.mk.inj hc
  obtain ⟨e, he, -⟩ | ⟨count, hcount, h₂⟩ := course_onHost_bind.mp h₁
  · cases he
  obtain rfl := Except.ok.inj hcount
  rw [unmounted]
  split at h₂
  case isTrue none =>
    obtain ⟨-, rfl, rfl⟩ := course_pure.mp h₂
    exact ⟨rfl, (if_pos none).symm⟩
  case isFalse some =>
    obtain ⟨_, reply, v, rest, rfl, hq, h₃⟩ := course_step_lift_bind.mp h₂
    obtain ⟨-, hu⟩ := course_query.mp hq
    obtain ⟨rfl, rfl⟩ := Prod.mk.inj hu
    obtain ⟨-, rfl, rfl⟩ := course_pure.mp h₃
    exact ⟨rfl, (if_neg some).symm⟩

/-- The mounts beside the target are listed and the host stays as it is. If there are some, the detach
ends with them; if there are none, it goes on. -/
theorem course_detachHeld {outcome : Except OperationError Unit}
    (h : Course (World.reply cloud bookkeeper) (detachHeld setting request target client disk).run w
      ms outcome w') :
    let busy := mountsBeside w.tree target w.mounter.table disk.device
    ∃ listing u rest, ms = listing ++ rest ∧ Asked (·.isHost) listing ∧ u.host = w.host ∧
      ((busy = [] ∧ Course (World.reply cloud bookkeeper)
          (unmountAndDetach setting request target client).run u rest outcome w') ∨
        (busy ≠ [] ∧ rest = [] ∧ w' = u ∧
          outcome = .error (.failed setting.context (.deviceBusy busy)))) := by
  intro busy
  obtain ⟨_, form, u, rest, rfl, hq, h₁⟩ := course_step_lift_bind.mp h
  obtain ⟨rfl, located⟩ := course_query.mp hq
  obtain ⟨rfl, rfl⟩ := Prod.mk.inj located
  rcases course_step_bind.mp h₁ with ⟨e, hm, -⟩ | ⟨listed, found, v, rest, rfl, hm, h₂⟩
  · cases course_mountsElsewhere hm
  have left : v.host = w.host := host_mountsElsewhere hm
  have listing : Asked (·.isHost) listed := asked_of_history (isHost_mountsElsewhere _ _ hm.history)
  have same : found = busy := by
    simp only [busy, mountsBeside, funext (isBeside_eq w.tree target)]
    exact Except.ok.inj (course_mountsElsewhere hm)
  rw [same] at h₂
  refine ⟨_, v, rest, rfl, asked_cons.mpr ⟨rfl, listing⟩, left, ?_⟩
  split at h₂
  case isTrue empty => exact .inl ⟨List.isEmpty_iff.mp empty, h₂⟩
  case isFalse some =>
    obtain ⟨rfl, rfl, rfl⟩ := course_fail.mp h₂
    exact .inr ⟨fun empty => some (List.isEmpty_iff.mpr empty), rfl, rfl, rfl⟩

/-- The target is unmounted, and it is in that state that the disk is detached and watched. -/
theorem course_unmountAndDetach {outcome : Except OperationError Unit}
    (h : Course (World.reply cloud bookkeeper) (unmountAndDetach setting request target client).run w
      ms outcome w') :
    w'.mounter.table = unmounted w.tree target w.mounter.table ∧
    ∃ checks change watching, ms = checks ++ (change ++ watching) ∧ Asked (·.isHost) checks ∧
      (∀ m ∈ change, m.1.mounter.table = unmounted w.tree target w.mounter.table) ∧
        Asked (·.isLooking) watching := by
  rcases course_step_bind.mp h with ⟨e, hu, -⟩ | ⟨checks, ⟨⟩, u, rest, rfl, hu, h₁⟩
  · cases (course_unmountTarget hu).1
  have sees := asked_unmountTarget hu
  have cleared := (course_unmountTarget hu).2
  -- the call and the watch leave the host alone
  have kept {x : World σ Ledger} (same : x.host = u.host) :
      x.mounter.table = unmounted w.tree target w.mounter.table := by
    rw [← cleared]
    exact congrArg (fun host => host.1.table) same
  rcases course_step_bind.mp h₁ with ⟨e, hc, -⟩ | ⟨change, ⟨next, ⟨⟩⟩, v, rest, rfl, hc, h₂⟩
  · obtain ⟨during, last⟩ := host_call (.detach request.disk request.node) hc
    exact ⟨kept last, checks, _, [], by simp, sees, fun m hm => kept (during m hm), asked_nil⟩
  obtain ⟨during, called⟩ := host_call (.detach request.disk request.node) hc
  rcases course_step_bind.mp h₂ with ⟨e, hw, -⟩ | ⟨watching, found, x, rest, rfl, hw, h₃⟩
  · have last := (World.host_looking hw (asked_watch hw)).trans called
    exact ⟨kept last, checks, change, _, rfl, sees, fun m hm => kept (during m hm), asked_watch hw⟩
  · obtain ⟨rfl, -, rfl⟩ := course_pure.mp h₃
    have last := (World.host_looking hw (asked_watch hw)).trans called
    exact ⟨kept last, checks, change, _, rfl, sees, fun m hm => kept (during m hm),
      by simpa using asked_watch hw⟩

end Books
end BlockVolume.Operation
