import BlockVolume.Proofs.Operation.DetachFound
/-!
What a detach leaves in the books of a mounter when its disk is with the node.

The mounts of the device are listed first. If one of them is at another path than the target, the
detach ends with these paths and has changed nothing. Otherwise the target is unmounted, whatever is
mounted there: the first entry at the target goes, be it one of the device or of another one.
-/

namespace BlockVolume.Operation

open BlockVolume.Cloud (Client Credentials Disk)
open BlockVolume.Host (FileTree)
open BlockVolume.Mount (Ledger MountPoint MountTable)
open BlockVolume.Node (CloudModel World)
open BlockVolume.Program
open BlockVolume.Rehearsal (bookkeeper)
open BlockVolume.Volume (Request)

variable {σ : Type} {setting : Setting} {request : Request} {target : Path} {disk : Disk}
  {client : Client} {tree : FileTree} {table : MountTable}

/-! ### Disks that are with the node -/

theorem isFreeOf_eq_false {node : String} :
    disk.isFreeOf node = false ↔ disk.holder = node ∧ disk.status ≠ .available := by
  simp [Disk.isFreeOf]

/-- Once the disk is found with the node, a detach goes on to detach it. -/
theorem course_detach_of_held {answer : (q : Ask) → σ → Ask.Answer q × σ} {s s' : σ}
    {ms : List (σ × Exchange Ask.Answer)} {outcome : Except OperationError Unit}
    (h : Course answer (detach setting request target).run s ms outcome s')
    (found : firstFound (ms.map Prod.snd) = some (some disk))
    (held : disk.isFreeOf request.node = false) :
    ∃ client opening rest u, ms = opening ++ rest ∧
      Course answer (findDisk setting request.region).run s opening (.ok (some (client, disk))) u ∧
        Course answer (detachHeld setting request target client disk).run u rest outcome s' := by
  rw [detach_eq] at h
  rcases course_step_bind.mp h with ⟨e, hf, -⟩ | ⟨opening, known, u, rest, rfl, hf, hr⟩
  · rw [firstFound, List.findSome?_eq_none_iff.mpr (failed_findDisk hf.history).2] at found
    cases found
  · rw [List.map_append, firstFound_append (firstFound_findDisk hf.history)] at found
    obtain ⟨⟨client, other⟩, rfl, rfl⟩ := Option.map_eq_some_iff.mp (Option.some.inj found)
    rw [detachFound, if_neg (Bool.eq_false_iff.mp held)] at hr
    exact ⟨client, opening, rest, u, rfl, hf, hr⟩

section Books

variable {cloud : CloudModel σ} {w w' : World σ Ledger}
  {ms : List (World σ Ledger × Exchange Ask.Answer)}

/-- How a detach ends whose disk is with the node. -/
structure HeldEnd (setting : Setting) (target : Path) (disk : Disk) (w w' : World σ Ledger)
    (ms : List (World σ Ledger × Exchange Ask.Answer)) (outcome : Except OperationError Unit) :
    Prop where
  /-- A device that is mounted beside the target is not touched. -/
  busy : mountsBeside w.tree target w.mounter.table disk.device ≠ [] →
    outcome = .error (.failed setting.context
      (.deviceBusy (mountsBeside w.tree target w.mounter.table disk.device))) ∧
    w'.host = w.host ∧ Asked (·.isDetaching = false) ms
  /-- If it is not, the target is unmounted, whatever comes of it. -/
  unmounting : mountsBeside w.tree target w.mounter.table disk.device = [] →
    (∀ e, outcome = .error e → e.kind ≠ .deviceBusy) ∧
      w'.mounter.table = unmounted w.tree target w.mounter.table

/-- The kinds of a detach that comes to unmount the target. -/
theorem failsAs_unmountAndDetach :
    FailsAs (.hostIo :: .timeout :: .notFound :: callKinds)
      (unmountAndDetach setting request target client) := by
  refine (failsAs_unmountTarget.mono (by decide)).bind fun _ => ?_
  refine (failsAs_call.mono (by decide)).bind fun called => ?_
  exact ((failsAs_watch _ 1 called.1).mono (by decide)).bind fun _ => failsAs_pure ()

theorem heldEnd_of_detachHeld {outcome : Except OperationError Unit}
    (h : Course (World.reply cloud bookkeeper) (detachHeld setting request target client disk).run w
      ms outcome w') : HeldEnd setting target disk w w' ms outcome := by
  obtain ⟨listing, u, rest, rfl, listed, left, going⟩ := course_detachHeld h
  rcases going with ⟨nowhere, ha⟩ | ⟨beside, rfl, rfl, rfl⟩
  · refine ⟨fun beside => absurd nowhere beside, fun _ => ⟨fun e failed busy => ?_, ?_⟩⟩
    · subst failed
      have own := failsAs_unmountAndDetach ha.history
      rw [busy] at own
      exact absurd own (by decide)
    · obtain ⟨books, trees⟩ := Prod.mk.inj left
      rw [← books, ← trees]
      exact (course_unmountAndDetach ha).1
  · refine ⟨fun _ => ⟨rfl, left, ?_⟩, fun nowhere => absurd nowhere beside⟩
    rw [List.append_nil]
    exact listed.imp fun _ => Ask.isDetaching_of_isHost

/-- To look for the disk changes nothing at the host. -/
theorem heldEnd_of_detach {outcome : Except OperationError Unit}
    (h : Course (World.reply cloud bookkeeper) (detach setting request target).run w ms outcome w')
    (found : firstFound (ms.map Prod.snd) = some (some disk)) (holder : disk.holder = request.node)
    (status : disk.status ≠ .available) : HeldEnd setting target disk w w' ms outcome := by
  obtain ⟨client, opening, rest, u, rfl, hf, hr⟩ :=
    course_detach_of_held h found (isFreeOf_eq_false.mpr ⟨holder, status⟩)
  have looked : Asked (·.isDetaching = false) opening :=
    (asked_findDisk hf).imp fun _ => Ask.isDetaching_of_isLooking
  have same : u.host = w.host := World.host_looking hf (asked_findDisk hf)
  obtain ⟨books, trees⟩ := Prod.mk.inj same
  obtain ⟨busy, unmounting⟩ := heldEnd_of_detachHeld hr
  rw [books, trees] at busy unmounting
  rw [same] at busy
  refine ⟨fun beside => ?_, unmounting⟩
  obtain ⟨failed, left, quiet⟩ := busy beside
  exact ⟨failed, left, asked_append.mpr ⟨looked, quiet⟩⟩

/-- If a disk is found with the node and its device is mounted beside the target, a detach names these
mounts, and leaves the mounter as it is and the disk attached. If it is mounted nowhere else, the
detach does not end so. -/
theorem detach_busy {world : World σ Ledger}
    (found : firstFound (((detach setting request target).run.moments
      (World.reply cloud bookkeeper) world).map Prod.snd) = some (some disk))
    (holder : disk.holder = request.node) (status : disk.status ≠ .available) :
    let ended := World.run cloud bookkeeper (detach setting request target).run world
    let elsewhere := ∃ point ∈ world.mounter.table, shows disk.device point = true ∧
      isBeside world.tree target point.path = true
    (elsewhere →
      ended.1 = .error (.failed setting.context
        (.deviceBusy (mountsBeside world.tree target world.mounter.table disk.device))) ∧
      ended.2.mounter = world.mounter ∧
      ∀ m ∈ (detach setting request target).run.moments (World.reply cloud bookkeeper) world,
        m.2.question.isDetaching = false) ∧
    (¬elsewhere → ∀ context mounts, ended.1 ≠ .error (.failed context (.deviceBusy mounts))) := by
  intro ended elsewhere
  have heldEnd := heldEnd_of_detach (World.course_run rfl) found holder status
  constructor
  · intro beside
    obtain ⟨failed, left, quiet⟩ := heldEnd.busy (mountsBeside_ne_nil.mpr beside)
    exact ⟨failed, congrArg Prod.fst left, quiet⟩
  · intro absent context mounts failed
    have nowhere : mountsBeside world.tree target world.mounter.table disk.device = [] := by
      by_contra beside
      exact absent (mountsBeside_ne_nil.mp beside)
    exact (heldEnd.unmounting nowhere).1 _ failed rfl

/-! ### A disk that is mounted at several places -/

/-- Mounts of some devices, each at a path. -/
def mountsAs (mounts : List (String × String)) : MountTable :=
  mounts.map fun (device, path) => ⟨⟨device⟩, ⟨path⟩, "ext4", [], 0, 0⟩

/-- A disk in use under a name that the host may know in another form. -/
def renamedDisk : Disk := { usedDisk with device := "/dev/xvdb" }

/-- A world with this disk, the given mounts and a link to `/t`. -/
def linkedWorld (mounts : List (String × String)) : World Disk Ledger :=
  World.start renamedDisk (.ofTable (mountsAs mounts)) ⟨[(["t"], .dir), (["l"], .link "/t")]⟩

/-- Detaching it from a target. -/
def detachFrom (target : String) : NodeProgram (Except OperationError Unit) :=
  (detach ⟨⟨[], some (Credentials.lasting "id" "secret")⟩, .standard, ⟨.detach, "d-1", "i-1"⟩⟩
    ⟨"d-1", "i-1", "z", "r", .ext4, .available, false, false⟩ ⟨target⟩).run

/-- Through the link, the mount at `/t` is one of the target. Those beside it are named by the name of
the device, and then in the order of the table. -/
theorem busy_beside_link :
    let world := linkedWorld [("/dev/vdb", "/a"), ("/dev/xvdb", "/t"), ("/dev/xvdb", "/b"),
      ("/dev/vdc", "/l"), ("/dev/vdb", "/a")]
    let ended := World.run oneDiskCloud bookkeeper (detachFrom "/l") world
    ended.1 = .error (.failed ⟨.detach, "d-1", "i-1"⟩ (.deviceBusy [⟨"/b"⟩, ⟨"/a"⟩, ⟨"/a"⟩])) ∧
      ended.2.mounter = world.mounter := by
  intro world ended
  have found : firstFound (((detachFrom "/l").moments (World.reply oneDiskCloud bookkeeper)
      world).map Prod.snd) = some (some renamedDisk) := by
    cbv
  have named : mountsBeside world.tree ⟨"/l"⟩ world.mounter.table renamedDisk.device =
      [⟨"/b"⟩, ⟨"/a"⟩, ⟨"/a"⟩] := by
    cbv
  have elsewhere := mountsBeside_ne_nil.mp (named ▸ List.cons_ne_nil _ _)
  obtain ⟨failed, left, -⟩ := (detach_busy found rfl (by decide)).1 elsewhere
  rw [named] at failed
  exact ⟨failed, left⟩

/-! ### Mounts of other devices -/

theorem filter_unmounted_eq_iff {q : MountPoint → Bool} :
    (unmounted tree target table).filter q = table.filter q ↔
      table.first? (Ledger.lookupPath tree target) = none ∨
        ∀ point, table.first? target = some point → q point = false := by
  simp only [unmounted, MountTable.countAt_eq_zero]
  cases hf : table.first? (Ledger.lookupPath tree target) with
  | none => simp
  | some point => simp [MountTable.filter_removeFirst_eq_iff]

/-- A detach of a disk that is found with the node takes at most the first mount at the target away.
The mounts of other devices stay exactly if the device is mounted beside the target, if nothing is
found where the target is looked up, or if the first mount at the target is one of the device. -/
theorem detach_keeps_others_iff {world : World σ Ledger}
    (found : firstFound (((detach setting request target).run.moments
      (World.reply cloud bookkeeper) world).map Prod.snd) = some (some disk))
    (holder : disk.holder = request.node) (status : disk.status ≠ .available) :
    let before := world.mounter.table
    let after := (World.run cloud bookkeeper (detach setting request target).run world).2.mounter.table
    (after = before ∨ after = before.removeFirst target) ∧
    (after.filter (!shows disk.device ·) = before.filter (!shows disk.device ·) ↔
      (∃ point ∈ before, shows disk.device point = true ∧
        isBeside world.tree target point.path = true) ∨
      before.first? (Ledger.lookupPath world.tree target) = none ∨
      ∀ point, before.first? target = some point → shows disk.device point = true) := by
  intro before after
  have heldEnd := heldEnd_of_detach (World.course_run rfl) found holder status
  rw [← mountsBeside_ne_nil]
  by_cases nowhere : mountsBeside world.tree target before disk.device = []
  · have cleared : after = unmounted world.tree target before := (heldEnd.unmounting nowhere).2
    rw [cleared]
    constructor
    · rw [unmounted]
      split
      · exact .inl rfl
      · exact .inr rfl
    · rw [filter_unmounted_eq_iff, or_iff_right (not_not_intro nowhere)]
      simp
  · have left : after = before := by
      obtain ⟨-, left, -⟩ := heldEnd.busy nowhere
      exact congrArg (fun host => host.1.table) left
    rw [left]
    exact ⟨.inl rfl, iff_of_true rfl (.inl nowhere)⟩

/-- A mount of the device lies below that of another device, and is the one that goes. -/
theorem own_mount_taken :
    let world := linkedWorld [("/dev/vdb", "/t"), ("/dev/vdc", "/t"), ("/dev/vdc", "/c")]
    (World.run oneDiskCloud bookkeeper (detachFrom "/t") world).2.mounter.table.filter
        (!shows renamedDisk.device ·) = mountsAs [("/dev/vdc", "/t"), ("/dev/vdc", "/c")] := by
  intro world
  have found : firstFound (((detachFrom "/t").moments (World.reply oneDiskCloud bookkeeper)
      world).map Prod.snd) = some (some renamedDisk) := by
    cbv
  have own : ∀ point, world.mounter.table.first? ⟨"/t"⟩ = some point →
      shows renamedDisk.device point = true := by
    have first : world.mounter.table.first? ⟨"/t"⟩ =
        some ⟨⟨"/dev/vdb"⟩, ⟨"/t"⟩, "ext4", [], 0, 0⟩ := by
      cbv
    rw [first]
    rintro point ⟨⟩
    cbv
  have kept := (detach_keeps_others_iff found rfl (by decide)).2.mpr (.inr (.inr own))
  exact kept.trans (by cbv)

/-- A detach unmounts another device that is mounted at its target. -/
theorem other_mount_taken :
    let world := linkedWorld [("/dev/vdc", "/t")]
    let ended := World.run oneDiskCloud bookkeeper (detachFrom "/t") world
    firstFound (((detachFrom "/t").moments (World.reply oneDiskCloud bookkeeper) world).map
        Prod.snd) = some (some renamedDisk) ∧ renamedDisk.isFreeOf "i-1" = false ∧
      world.mounter.table.filter (!shows renamedDisk.device ·) = mountsAs [("/dev/vdc", "/t")] ∧
      ended.1 = .ok () ∧ ended.2.mounter.table = [] := by
  refine ⟨by cbv, by cbv, by cbv, by cbv, by cbv⟩

end Books
end BlockVolume.Operation
