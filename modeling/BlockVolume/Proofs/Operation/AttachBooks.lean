import BlockVolume.Proofs.Host.Creation
import BlockVolume.Proofs.Mount.Formatting
import BlockVolume.Proofs.Operation.AttachAgain
import BlockVolume.Proofs.Operation.DetachAgain
/-!
What an attach leaves in the books of a mounter.

An attach reaches the host in its last part alone, and there only its very last question can change
the books. That question either mounts the device or leaves them as they were. So an attach that
fails, wherever it does, has changed nothing in them, and one that succeeds has found the device
mounted at the target or has mounted it there.
-/

namespace BlockVolume.Operation

open BlockVolume.Cloud (Client Credentials Disk)
open BlockVolume.Host (FileTree)
open BlockVolume.Mount (Ledger MountPoint)
open BlockVolume.Node (CloudModel MounterModel World)
open BlockVolume.Program
open BlockVolume.Rehearsal (bookkeeper)
open BlockVolume.Volume (Request)

variable {σ μ : Type} {setting : Setting} {request : Request} {target : Path}

/-! ### Up to the mounting -/

section World

variable {cloud : CloudModel σ} {mounter : MounterModel μ} {w u w' : World σ μ}
  {ms : List (World σ μ × Exchange Ask.Answer)} {outcome : Except OperationError Unit}

/-- How an attach ends: it gives up before it has reached the host, or with the mounting of the disk
that its last look has found in use. -/
inductive AttachEnd (cloud : CloudModel σ) (mounter : MounterModel μ) (setting : Setting)
    (request : Request) (target : Path) (w w' : World σ μ) :
    List (World σ μ × Exchange Ask.Answer) → Except OperationError Unit → Prop where
  | early {ms : List (World σ μ × Exchange Ask.Answer)} (e : OperationError)
      (left : w'.host = w.host) :
      AttachEnd cloud mounter setting request target w w' ms (.error e)
  | mounting {before ending : List (World σ μ × Exchange Ask.Answer)}
      {outcome : Except OperationError Unit} (disk : Disk) (u : World σ μ)
      (left : u.host = w.host)
      (last : (looks (before.map Prod.snd)).getLast? = some (.ok (some disk)))
      (settled : disk.isSettledOn request.node = true)
      (mounts : Course (World.reply cloud mounter) (mountDevice setting request disk target).run u
        ending outcome w') :
      AttachEnd cloud mounter setting request target w w' (before ++ ending) outcome

/-- What came before the watch without reaching the host. -/
theorem AttachEnd.after {before : List (World σ μ × Exchange Ask.Answer)}
    (left : u.host = w.host) (h : AttachEnd cloud mounter setting request target u w' ms outcome) :
    AttachEnd cloud mounter setting request target w w' (before ++ ms) outcome := by
  cases h with
  | early e same => exact .early e (same.trans left)
  | @mounting looked ending _ disk v same last settled mounts =>
    rw [← List.append_assoc]
    refine .mounting disk v (same.trans left) ?_ settled mounts
    rw [List.map_append, looks_append, List.getLast?_append, last]
    rfl

theorem attachEnd_of_watch {client : Client}
    (h : Course (World.reply cloud mounter) (ExceptT.run
      (setting.waitFor request.region "attached" (·.isSettledOn request.node) client >>=
        fun found => mountDevice setting request found.2 target)) w ms outcome w') :
    AttachEnd cloud mounter setting request target w w' ms outcome := by
  rcases course_step_bind.mp h with ⟨e, hw, rfl⟩ | ⟨watching, ⟨next, disk⟩, u, ending, rfl, hw, hm⟩
  · exact .early e (World.host_looking hw (asked_watch hw))
  · obtain ⟨settled, last⟩ := (looks_watch hw.history).2 next disk rfl
    exact .mounting disk u (World.host_looking hw (asked_watch hw)) last settled hm

/-- Whatever the cloud and the mounter do, an attach comes to such an end. -/
theorem course_attach_end
    (h : Course (World.reply cloud mounter) (attach setting request target).run w ms outcome w') :
    AttachEnd cloud mounter setting request target w w' ms outcome := by
  rcases course_step_bind.mp h with ⟨e, hc, rfl⟩ | ⟨first, client, u, rest, rfl, hc, h₁⟩
  · exact .early e (World.host_looking hc (asked_connect hc))
  have connected := World.host_looking hc (asked_connect hc)
  rcases course_step_bind.mp h₁ with ⟨e, hd, rfl⟩ | ⟨second, ⟨next, disk⟩, v, rest, rfl, hd, h₂⟩
  · have described := World.host_looking hd (asked_of_history (looks_describe hd.history).1)
    exact .early e (described.trans connected)
  have described := World.host_looking hd (asked_of_history (looks_describe hd.history).1)
  refine .after connected (.after described ?_)
  dsimp only at h₂
  split at h₂
  case isTrue => exact attachEnd_of_watch h₂
  case isFalse =>
    rcases course_step_bind.mp h₂ with ⟨e, ha, rfl⟩ | ⟨change, ⟨last, ⟨⟩⟩, x, rest, rfl, ha, h₃⟩
    · exact .early e (host_call (.attach request.disk request.node) ha).2
    · exact .after (host_call (.attach request.disk request.node) ha).2 (attachEnd_of_watch h₃)

end World

/-! ### The mounting -/

section Books

variable {cloud : CloudModel σ} {w w' : World σ Ledger}
  {ms : List (World σ Ledger × Exchange Ask.Answer)} {disk : Disk}
  {outcome : Except OperationError Unit}

/-- The books before and after a device was found mounted at the target, or was mounted there. -/
inductive Mounts (request : Request) (target : Path) (disk : Disk) (tree : FileTree)
    (before after : Ledger) : Prop where
  | found (point : MountPoint) (left : after = before)
      (first : before.table.first? (Ledger.lookupPath tree target) = some point)
      (shown : shows disk.device point = true)
  | made (device : Path) (named : device ∈ deviceNames disk.device)
      (free : before.table.first? (Ledger.lookupPath tree target) = none)
      (asked : before.formatAndMount device target request.fsType.name (mountOptions request) =
        (.ok (), after))

/-- How the mounting of a device ends: with an error that leaves the books alone, or with the device
mounted at a target that could be made. -/
inductive MountEnd (request : Request) (target : Path) (disk : Disk) (w w' : World σ Ledger) :
    Except OperationError Unit → Prop where
  | failed (e : OperationError) (left : w'.mounter = w.mounter) :
      MountEnd request target disk w w' (.error e)
  | done (named : disk.device ≠ "") (created : w.tree.createTarget target = (.ok (), w'.tree))
      (mounts : Mounts request target disk w'.tree w.mounter w'.mounter) :
      MountEnd request target disk w w' (.ok ())

theorem course_mountDevice_end
    (h : Course (World.reply cloud bookkeeper) (mountDevice setting request disk target).run w ms
      outcome w') : MountEnd request target disk w w' outcome := by
  rw [mountDevice] at h
  split at h
  case isTrue =>
    obtain ⟨-, rfl, rfl⟩ := course_fail.mp h
    exact .failed _ rfl
  case isFalse named =>
  have named : disk.device ≠ "" := by simpa using named
  obtain ⟨looked, device, u, rest, rfl, hd, h₁⟩ := course_step_lift_bind.mp h
  obtain ⟨books, trees⟩ := Prod.mk.inj (host_hostDevice hd)
  have known := (history_hostDevice hd.history).2
  obtain ⟨_, reply, v, rest, rfl, hq, h₂⟩ := course_step_lift_bind.mp h₁
  obtain ⟨made, rfl⟩ := Prod.mk.inj ((World.reply_createTarget ..).symm.trans (course_query.mp hq).2)
  rw [trees] at made
  obtain ⟨e, -, -, rfl, rfl⟩ | ⟨⟨⟩, rfl, h₃⟩ := course_onHost_bind.mp h₂
  · exact .failed _ books
  have created : w.tree.createTarget target = (.ok (), (u.tree.createTarget target).2) :=
    Prod.ext made (by rw [trees])
  obtain ⟨_, found, x, rest, rfl, hq, h₄⟩ := course_step_lift_bind.mp h₃
  obtain ⟨rfl, rfl⟩ := Prod.mk.inj ((World.reply_mounter ..).symm.trans (course_query.mp hq).2)
  obtain ⟨e, -, -, rfl, rfl⟩ | ⟨mounted, hm, h₅⟩ := course_onHost_bind.mp h₄
  · exact .failed _ books
  have shown : u.mounter.table.deviceAt
      (Ledger.lookupPath (u.tree.createTarget target).2 target) = mounted := Except.ok.inj hm
  rw [books] at shown
  cases mounted with
  | some mounted =>
    obtain ⟨point, first, rfl⟩ := Option.map_eq_some_iff.mp shown
    dsimp only at h₅
    split at h₅
    case isTrue own =>
      obtain ⟨-, rfl, rfl⟩ := course_pure.mp h₅
      exact .done named created (.found point books first own)
    case isFalse =>
      obtain ⟨-, rfl, rfl⟩ := course_fail.mp h₅
      exact .failed _ books
  | none =>
    have free := Mount.MountTable.deviceAt_eq_none.mp shown
    obtain ⟨_, bare, y, rest, rfl, hq, h₆⟩ := course_step_lift_bind.mp h₅
    obtain ⟨-, rfl⟩ := Prod.mk.inj (course_query.mp hq).2
    split at h₆
    case h_2 | h_3 =>
      obtain ⟨-, rfl, rfl⟩ := course_fail.mp h₆
      exact .failed _ books
    case h_1 =>
    obtain ⟨_, reply, z, rest, rfl, hq, h₇⟩ := course_step_lift_bind.mp h₆
    obtain ⟨answered, rfl⟩ :=
      Prod.mk.inj ((World.reply_mounter ..).symm.trans (course_query.mp hq).2)
    cases reply with
    | error e =>
      obtain ⟨-, rfl, rfl⟩ := course_fail.mp h₇
      exact .failed _ ((Ledger.formatAndMount_error answered).trans books)
    | ok _ =>
      obtain ⟨-, rfl, rfl⟩ := course_pure.mp h₇
      refine .done named created (.made device known free ?_)
      rw [← books]
      exact Prod.ext answered rfl

/-! ### Attaches that fail -/

/-- An attach that fails leaves the mount table, the formats and the log of the mounter as they were,
whatever the cloud answers and wherever it fails. -/
theorem attach_failed_unchanged {world : World σ Ledger} {e : OperationError}
    (failed : (World.run cloud bookkeeper (attach setting request target).run world).1 =
      .error e) :
    (World.run cloud bookkeeper (attach setting request target).run world).2.mounter =
      world.mounter := by
  have course := course_attach_end (World.course_run failed)
  generalize (World.run cloud bookkeeper (attach setting request target).run world).2 = w' at course
  generalize (attach setting request target).run.moments (World.reply cloud bookkeeper) world = ms
    at course
  cases course with
  | early e left => exact congrArg Prod.fst left
  | mounting disk u left last settled mounts =>
    cases course_mountDevice_end mounts with
    | failed e same => exact same.trans (congrArg Prod.fst left)

/-- A world with a disk that is free and holds the given file system, and a mount of another device. -/
def heldWorld (kind : String) : World Disk Ledger :=
  World.start ⟨"d-1", .available, "", "/v", "", ""⟩
    ⟨[⟨⟨"/a"⟩, ⟨"/"⟩, "xfs", [], 0, 0⟩], [(⟨"/v"⟩, kind)], []⟩ ⟨[]⟩

/-- Attaching it to be read only. -/
def readOnlyAttach : NodeProgram (Except OperationError Unit) :=
  (attach ⟨⟨[], some (Credentials.lasting "id" "secret")⟩, .standard, ⟨.attach, "d-1", "i-1"⟩⟩
    ⟨"d-1", "i-1", "z", "r", .ext4, .available, true, false⟩ ⟨"/t"⟩).run

theorem readOnlyAttach_unchanged :
    (World.run oneDiskCloud bookkeeper readOnlyAttach (heldWorld "xfs")).1 =
        .error (.failed ⟨.attach, "d-1", "i-1"⟩
          (.host "format and mount" (.filesystemMismatch ⟨"/v"⟩ "xfs" "ext4"))) ∧
      (World.run oneDiskCloud bookkeeper readOnlyAttach (heldWorld "xfs")).2.mounter =
        (heldWorld "xfs").mounter := by
  have failed : (World.run oneDiskCloud bookkeeper readOnlyAttach (heldWorld "xfs")).1 =
      .error (.failed ⟨.attach, "d-1", "i-1"⟩
        (.host "format and mount" (.filesystemMismatch ⟨"/v"⟩ "xfs" "ext4"))) := by
    cbv
  exact ⟨failed, attach_failed_unchanged failed⟩

/-! ### Attaches that succeed -/

/-- Mounting a device makes no call to the control plane. -/
theorem looks_mountDevice (h : Course (World.reply cloud bookkeeper)
    (mountDevice setting request disk target).run w ms outcome w') :
    looks (ms.map Prod.snd) = [] := by
  have quiet : Only (fun question : Ask => question.isControl = false)
      (mountDevice setting request disk target).run :=
    only_mountDevice (fun _ => Ask.isControl_of_isInspecting) fun _ => rfl
  exact looks_eq_nil (quiet h.history)

theorem bind_notMem_mountOptions (request : Request) : "bind" ∉ mountOptions request := by
  rw [mountOptions]
  split <;> decide

/-- The table shows the device at the target as before, or has one more entry, at its end. -/
theorem Mounts.table {tree : FileTree} {before after : Ledger}
    (h : Mounts request target disk tree before after) :
    (after = before ∧ ∃ point ∈ before.table, shows disk.device point = true ∧
        point.path.same (Ledger.lookupPath tree target) = true) ∨
      ∃ device ∈ deviceNames disk.device,
        after.table = before.table ++
          [⟨device, target, request.fsType.name, mountOptions request, 0, 0⟩] ∧
        after.formatOf? device = some request.fsType.name := by
  cases h with
  | found point left first shown =>
    have here : point.path.same (Ledger.lookupPath tree target) = true := by
      simpa using List.find?_some first
    exact Or.inl ⟨left, point, List.mem_of_find?_eq_some first, shown, here⟩
  | made device named _ asked =>
    exact Or.inr
      ⟨device, named, Ledger.formatAndMount_ok (bind_notMem_mountOptions request) asked⟩

/-- An attach that succeeds has found the disk in use by the node at its last look, with a device. A
mount of that device was at the target already, and the books are as they were; or the books have one
more entry, at the end, and the device has the format that was asked for. Only the empty path has no
link-free form then. -/
theorem attach_ok_mounted {world : World σ Ledger}
    (ok : (World.run cloud bookkeeper (attach setting request target).run world).1 = .ok ()) :
    let final := (World.run cloud bookkeeper (attach setting request target).run world).2
    let ms := (attach setting request target).run.moments (World.reply cloud bookkeeper) world
    ∃ disk, (looks (ms.map Prod.snd)).getLast? = some (.ok (some disk)) ∧
      disk.status = .inUse ∧ disk.holder = request.node ∧ disk.device ≠ "" ∧
      (target.text ≠ "" → (final.tree.canonical? target).isSome = true) ∧
      ((final.mounter = world.mounter ∧ ∃ point ∈ world.mounter.table,
          (deviceNames disk.device).any point.device.same = true ∧
            point.path.same (Ledger.lookupPath final.tree target) = true) ∨
        ∃ device ∈ deviceNames disk.device,
          final.mounter.table = world.mounter.table ++
            [⟨device, target, request.fsType.name, if request.readOnly then ["ro"] else [], 0, 0⟩] ∧
          final.mounter.formatOf? device = some request.fsType.name) := by
  intro final ms
  have course := course_attach_end (World.course_run ok)
  change AttachEnd cloud bookkeeper setting request target world final ms (.ok ()) at course
  clear_value final ms
  cases course with
  | @mounting before ending _ disk u left last settled mounts =>
  obtain ⟨inUse, held⟩ : disk.status = .inUse ∧ disk.holder = request.node := by
    simpa [Disk.isSettledOn] using settled
  have final_look : (looks ((before ++ ending).map Prod.snd)).getLast? = some (.ok (some disk)) := by
    rw [List.map_append, looks_append, looks_mountDevice mounts, List.append_nil, last]
  cases course_mountDevice_end mounts with
  | done named created mounted =>
  have formed : target.text ≠ "" → (final.tree.canonical? target).isSome = true := fun some => by
    obtain ⟨form, canonical⟩ :=
      FileTree.exists_canonical (FileTree.isDirectory_of_createTarget created some)
    rw [canonical]
    rfl
  have books : u.mounter = world.mounter := congrArg Prod.fst left
  rw [books] at mounted
  exact ⟨disk, final_look, inUse, held, named, formed, mounted.table⟩

theorem readOnlyAttach_mounted :
    (World.run oneDiskCloud bookkeeper readOnlyAttach (heldWorld "ext4")).1 = .ok () ∧
      ∃ device ∈ deviceNames "/v",
        (World.run oneDiskCloud bookkeeper readOnlyAttach (heldWorld "ext4")).2.mounter.table =
          (heldWorld "ext4").mounter.table ++ [⟨device, ⟨"/t"⟩, "ext4", ["ro"], 0, 0⟩] ∧
        (World.run oneDiskCloud bookkeeper readOnlyAttach (heldWorld "ext4")).2.mounter.formatOf?
          device = some "ext4" := by
  have ok : (World.run oneDiskCloud bookkeeper readOnlyAttach (heldWorld "ext4")).1 = .ok () := by
    cbv
  have last : (looks ((readOnlyAttach.moments (World.reply oneDiskCloud bookkeeper)
      (heldWorld "ext4")).map Prod.snd)).getLast? =
        some (.ok (some ⟨"d-1", .inUse, "i-1", "/v", "", ""⟩)) := by
    cbv
  have longer : (World.run oneDiskCloud bookkeeper readOnlyAttach
      (heldWorld "ext4")).2.mounter.table.length = 2 := by
    cbv
  obtain ⟨disk, found, -, -, -, -, ⟨same, -⟩ | added⟩ := attach_ok_mounted ok
  · rw [readOnlyAttach, same] at longer
    cases longer
  · rw [readOnlyAttach] at last
    obtain rfl := Option.some.inj (Except.ok.inj (Option.some.inj (last.symm.trans found)))
    exact ⟨ok, added⟩

end Books
end BlockVolume.Operation
