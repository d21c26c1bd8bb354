import BlockVolume.Proofs.Operation.DetachParts
/-!
What is still mounted when a detach asks for its disk to be detached.

The mounts are listed before the target is unmounted, and those at the target are passed over. So
more than one mount there, or one that an unmount of the target does not take away, is still in place
when the disk is detached. `ClearedByUnmount` says when nothing is.
-/

namespace BlockVolume.Operation

open BlockVolume.Cloud (Credentials Disk)
open BlockVolume.Host (FileTree)
open BlockVolume.Mount (Ledger MountPoint MountTable)
open BlockVolume.Node (CloudModel World)
open BlockVolume.Program
open BlockVolume.Rehearsal (Script bookkeeper)
open BlockVolume.Volume (Request)

variable {σ : Type} {setting : Setting} {request : Request} {target : Path}

/-- Unmounting the target leaves no mount of the device: there is none, or just one, which is the
first at the target — and something is found where the target is looked up. -/
def ClearedByUnmount (reported : String) (tree : FileTree) (target : Path) (table : MountTable) :
    Prop :=
  table.filter (shows reported) = [] ∨
    ∃ point, table.filter (shows reported) = [point] ∧ table.first? target = some point ∧
      (table.first? (Ledger.lookupPath tree target)).isSome

theorem unmounted_clear_iff {reported : String} {tree : FileTree} {table : MountTable} :
    (∀ point ∈ unmounted tree target table, shows reported point = false) ↔
      ClearedByUnmount reported tree target table := by
  simp only [unmounted, ClearedByUnmount, MountTable.countAt_eq_zero]
  cases hf : table.first? (Ledger.lookupPath tree target) with
  | none => simp
  | some point => simpa using MountTable.forall_removeFirst_iff

section Books

variable {cloud : CloudModel σ} {w w' : World σ Ledger}
  {ms : List (World σ Ledger × Exchange Ask.Answer)}

/-- A detach looks at the disk, sees to the mounts, has the disk detached and watches it. Where it
ends early the later phases are empty. -/
structure DetachPhases (w : World σ Ledger) (target : Path)
    (opening checks change watching : List (World σ Ledger × Exchange Ask.Answer)) : Prop where
  opens : Asked (·.isLooking) opening
  sees : Asked (·.isHost) checks
  /-- The call is made when the target is unmounted. -/
  changes : change = [] ∨ ∃ disk, firstFound (opening.map Prod.snd) = some (some disk) ∧
    ∀ m ∈ change, m.1.mounter.table = unmounted w.tree target w.mounter.table
  watches : Asked (·.isLooking) watching

theorem course_detach {outcome : Except OperationError Unit}
    (h : Course (World.reply cloud bookkeeper) (detach setting request target).run w ms outcome w') :
    ∃ opening checks change watching, ms = opening ++ (checks ++ (change ++ watching)) ∧
      DetachPhases w target opening checks change watching := by
  rw [detach_eq] at h
  rcases course_step_bind.mp h with ⟨e, hf, -⟩ | ⟨opening, found, u, rest, rfl, hf, hr⟩
  · exact ⟨ms, [], [], [], by simp, asked_findDisk hf, asked_nil, Or.inl rfl, asked_nil⟩
  have opens : Asked (·.isLooking) opening := asked_findDisk hf
  obtain ⟨tables, trees⟩ := Prod.mk.inj (World.host_looking hf opens)
  rcases detachFound_cases setting request target found with
    ⟨unmounts, -⟩ | ⟨client, disk, rfl, -, held⟩
  · rw [unmounts] at hr
    exact ⟨opening, rest, [], [], by simp, opens, asked_unmountTarget hr, Or.inl rfl, asked_nil⟩
  rw [held] at hr
  obtain ⟨listing, v, rest, rfl, sees, left, ⟨-, ha⟩ | ⟨-, rfl, -⟩⟩ := course_detachHeld hr
  · obtain ⟨tables', trees'⟩ := Prod.mk.inj left
    obtain ⟨-, checks, change, watching, rfl, sees', still, watches⟩ := course_unmountAndDetach ha
    rw [tables', trees', tables, trees] at still
    exact ⟨opening, listing ++ checks, change, watching, by simp, opens,
      asked_append.mpr ⟨sees, sees'⟩, Or.inr ⟨disk, firstFound_findDisk hf.history, still⟩, watches⟩
  · exact ⟨opening, listing, [], [], by simp, opens, sees, Or.inl rfl, asked_nil⟩

/-- At a moment at which a detach asks for the disk to be detached, its device is mounted nowhere just
if unmounting the target once was enough for that. -/
theorem detach_clear_iff {cloud : CloudModel σ} {world : World σ Ledger}
    {m : World σ Ledger × Exchange Ask.Answer}
    (hm : m ∈ (detach setting request target).run.moments (World.reply cloud bookkeeper) world)
    (hq : m.2.question.isDetaching = true) :
    ∃ disk, firstFound (((detach setting request target).run.moments
        (World.reply cloud bookkeeper) world).map Prod.snd) = some (some disk) ∧
      ((∀ point ∈ m.1.mounter.table, shows disk.device point = false) ↔
        ClearedByUnmount disk.device world.tree target world.mounter.table) := by
  obtain ⟨opening, checks, change, watching, split, phases⟩ :=
    course_detach (course_self (World.reply cloud bookkeeper) (detach setting request target).run world)
  rw [split] at hm ⊢
  have opens : m ∉ opening := fun h => by
    simp [Ask.isDetaching_of_isLooking (phases.opens m h)] at hq
  have sees : m ∉ checks := fun h => by
    simp [Ask.isDetaching_of_isHost (phases.sees m h)] at hq
  have watches : m ∉ watching := fun h => by
    simp [Ask.isDetaching_of_isLooking (phases.watches m h)] at hq
  have changes : m ∈ change := by simpa [opens, sees, watches] using hm
  obtain rfl | ⟨disk, found, still⟩ := phases.changes
  · cases changes
  refine ⟨disk, by rw [List.map_append, firstFound_append found], ?_⟩
  rw [still m changes, unmounted_clear_iff]

end Books

/-! ### A device that is mounted twice -/

/-- A disk in use. -/
def usedDisk : Disk := ⟨"d-1", .inUse, "i-1", "/dev/vdb", "", ""⟩

/-- A mount of its device at the target. -/
def usedMount : MountPoint := ⟨⟨"/dev/vdb"⟩, ⟨"/t"⟩, "ext4", [], 0, 0⟩

/-- A world in which the disk is in use until it is detached, with the given mounts. -/
def usedWorld (table : MountTable) : World Script Ledger :=
  World.start
    ⟨[], [], ⟨[], [⟨.ok (some usedDisk), 0⟩]⟩, ⟨[], []⟩, ⟨[], []⟩⟩ (.ofTable table)
    ⟨[(["t"], .dir)]⟩

/-- The moments of detaching it. -/
def usedMoments (table : MountTable) : List (World Script Ledger × Exchange Ask.Answer) :=
  (detach ⟨⟨[], some (Credentials.lasting "id" "secret")⟩, .standard, ⟨.detach, "d-1", "i-1"⟩⟩
    ⟨"d-1", "i-1", "z", "r", .ext4, .available, false, false⟩ ⟨"/t"⟩).run.moments
      (World.reply Script.cloud bookkeeper) (usedWorld table)

theorem mounted_once_cleared : ∃ m ∈ usedMoments [usedMount], m.2.question.isDetaching = true ∧
    ∀ point ∈ m.1.mounter.table, shows "/dev/vdb" point = false := by
  obtain ⟨m, hm, hq⟩ : ∃ m ∈ usedMoments [usedMount], m.2.question.isDetaching = true :=
    List.any_eq_true.mp (by cbv)
  obtain ⟨disk, found, clear⟩ := detach_clear_iff hm hq
  have known : firstFound ((usedMoments [usedMount]).map Prod.snd) = some (some usedDisk) := by cbv
  obtain rfl := Option.some.inj (Option.some.inj (known.symm.trans found))
  exact ⟨m, hm, hq, clear.mpr (Or.inr ⟨usedMount, by cbv, by cbv, by cbv⟩)⟩

theorem mounted_twice_detached : ∃ m ∈ usedMoments [usedMount, usedMount],
    m.2.question.isDetaching = true ∧
      firstFound ((usedMoments [usedMount, usedMount]).map Prod.snd) = some (some usedDisk) ∧
        ∃ point ∈ m.1.mounter.table, shows "/dev/vdb" point = true := by
  obtain ⟨m, hm, h⟩ : ∃ m ∈ usedMoments [usedMount, usedMount],
      (m.2.question.isDetaching && m.1.mounter.table.any (shows "/dev/vdb")) = true :=
    List.any_eq_true.mp (by cbv)
  obtain ⟨hq, shown⟩ := Bool.and_eq_true_iff.mp h
  exact ⟨m, hm, hq, by cbv, List.any_eq_true.mp shown⟩

end BlockVolume.Operation
