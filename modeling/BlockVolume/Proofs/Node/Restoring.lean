import BlockVolume.Proofs.Mount.Formatting
import BlockVolume.Proofs.Node.Formatting
import BlockVolume.Proofs.Node.Serialization
import BlockVolume.Proofs.Operation.AttachBooks
/-!
Staging a volume and unstaging it again.

A stage that succeeds at a target where nothing is mounted puts one mount at the end of the table. An
unstage that succeeds takes the first mount at the target away, whichever way it goes — also where the
disk is gone, or is with another node by then. So the two together leave the mounts as they were.
-/

namespace BlockVolume

open BlockVolume.Cloud (Client Credentials Disk)
open BlockVolume.Host (FileTree)
open BlockVolume.Mount (Ledger MountTable)
open BlockVolume.Node (CloudModel MounterModel World)
open BlockVolume.Program
open BlockVolume.Rehearsal (bookkeeper)
open BlockVolume.Volume (Options Request)

/-- A path is its own link-free form, but for slashes and dots. -/
def Host.FileTree.IsOwnForm (tree : FileTree) (path : Path) : Prop :=
  ∃ form, tree.canonical? path = some form ∧ form.same path = true

variable {σ υ μ : Type} {target : Path}

/-- A lookup at a path that is its own form looks there. -/
theorem Host.FileTree.IsOwnForm.lookupPath {tree : FileTree} (h : tree.IsOwnForm target) :
    (Ledger.lookupPath tree target).same target = true := by
  obtain ⟨form, canonical, same⟩ := h
  rwa [Ledger.lookupPath, canonical]

/-! ### What is mounted and unmounted -/

namespace Operation

variable {setting : Setting} {request : Request}

/-- An unmount undoes a mount at a path where no other mount is. -/
theorem unmounted_concat {tree : FileTree} {table : MountTable} {point : Mount.MountPoint}
    (own : tree.IsOwnForm target) (free : table.first? target = none)
    (here : point.path = target) : unmounted tree target (table ++ [point]) = table := by
  have same : point.path.same target = true := here ▸ Path.same_refl _
  have found : MountTable.countAt (table ++ [point]) (Ledger.lookupPath tree target) ≠ 0 := by
    rw [Ne, MountTable.countAt_eq_zero, MountTable.first?_congr own.lookupPath,
      MountTable.first?_concat free same]
    simp
  rw [unmounted, if_neg found, MountTable.removeFirst_concat free same]

section Books

variable {cloud : CloudModel σ} {w w' : World σ Ledger}
  {ms : List (World σ Ledger × Exchange Ask.Answer)}

/-- The formats in the books, and what was formatted. -/
def formatBooks (w : World σ Ledger) : List (Path × String) × List (Path × String) :=
  (w.mounter.formats, w.mounter.formatted)

/-- Nothing but a mount with its format changes formats in the books. -/
theorem formatBooks_reply {question : Ask} (other : question.isMounting = false)
    (w : World σ Ledger) :
    formatBooks (World.reply cloud bookkeeper question w).2 = formatBooks w := by
  rcases Node.World.books_answer cloud 0 question w with same | ⟨asked, rfl, changed⟩
  · exact congrArg (fun books : Ledger => (books.formats, books.formatted)) same
  · cases changed with
    | kept formats formatted => exact Prod.ext formats formatted
    | made asked =>
      subst asked
      cases other

theorem formatBooks_unmountTarget {outcome : Except OperationError Unit}
    (h : Course (World.reply cloud bookkeeper) (unmountTarget setting target).run w ms outcome w') :
    formatBooks w' = formatBooks w := by
  have only : Only (fun question : Ask => question.isMounting = false)
      (unmountTarget setting target).run := only_unmounting rfl rfl
  have quiet : Asked (fun question : Ask => question.isMounting = false) ms :=
    asked_of_history (only h.history)
  exact (h.frame formatBooks fun m hm => formatBooks_reply (quiet m hm)).2

/-- A detach that succeeds unmounts the target, and leaves the host alone but for that. -/
theorem course_detach_ok
    (h : Course (World.reply cloud bookkeeper) (detach setting request target).run w ms (.ok ())
      w') :
    ∃ u v es, u.host = w.host ∧ w'.host = v.host ∧
      Course (World.reply cloud bookkeeper) (unmountTarget setting target).run u es (.ok ()) v := by
  rw [detach_eq] at h
  rcases course_step_bind.mp h with ⟨e, -, heq⟩ | ⟨opening, found, u, rest, rfl, hf, hr⟩
  · cases heq
  have looked : u.host = w.host := World.host_looking hf (asked_findDisk hf)
  rcases detachFound_cases setting request target found with
    ⟨unmounts, -⟩ | ⟨client, disk, rfl, -, held⟩
  · rw [unmounts] at hr
    exact ⟨u, w', rest, looked, rfl, hr⟩
  rw [held] at hr
  obtain ⟨listing, v, rest, rfl, -, left, ⟨-, ha⟩ | ⟨-, -, -, heq⟩⟩ := course_detachHeld hr
  · rcases course_step_bind.mp ha with ⟨e, -, heq⟩ | ⟨checks, ⟨⟩, x, rest, rfl, hu, h₁⟩
    · cases heq
    refine ⟨v, x, checks, left.trans looked, ?_, hu⟩
    rcases course_step_bind.mp h₁ with ⟨e, -, heq⟩ | ⟨change, ⟨last, ⟨⟩⟩, y, rest, rfl, hc, h₂⟩
    · cases heq
    have called := (host_call (.detach request.disk request.node) hc).2
    rcases course_step_bind.mp h₂ with ⟨e, -, heq⟩ | ⟨watching, _, z, rest, rfl, hw, h₃⟩
    · cases heq
    obtain ⟨-, -, rfl⟩ := course_pure.mp h₃
    exact (World.host_looking hw (asked_watch hw)).trans called
  · cases heq

end Books
end Operation

/-! ### Staging and unstaging -/

namespace Node

open BlockVolume.Operation

variable {service : Service}

/-- A call that succeeds does its action, and leaves the host alone but for that. -/
theorem Service.course_program_ok {cloud : CloudModel σ} {mounter : MounterModel μ}
    {w w' : World σ μ} {ms : List (World σ μ × Exchange Ask.Answer)} (call : VolumeCall)
    (h : Course (World.reply cloud mounter) (service.program call) w ms (.ok ()) w') :
    ∃ request u v es, u.host = w.host ∧ w'.host = v.host ∧
      Course (World.reply cloud mounter)
        (service.attacher.perform call.action request call.staging).run u es (.ok ()) v := by
  rw [program_eq] at h
  obtain ⟨reading, read, u, rest, rfl, hp, h₁⟩ := course_bind.mp h
  have quiet : Asked (·.isHost = false) reading := asked_of_history fun e he => by
    obtain ⟨resource, hq⟩ := only_parse service call hp.history e he
    rw [hq]
    rfl
  have parsed := (World.host_course hp quiet).2
  cases read with
  | error status => cases (course_pure.mp h₁).2.1
  | ok request =>
    obtain ⟨_, ⟨⟩, v, rest, rfl, hq, h₂⟩ := course_bind.mp h₁
    have taken : v.host = u.host := congrArg (·.2.host) (course_query.mp hq).2.symm
    obtain ⟨_, outcome, x, rest, rfl, he, h₃⟩ := course_bind.mp h₂
    obtain ⟨during, result, y, _, rfl, hd, h₄⟩ := course_bind.mp he
    obtain ⟨rfl, rfl, rfl⟩ := course_pure.mp h₄
    obtain ⟨_, ⟨⟩, z, _, rfl, hq, h₅⟩ := course_bind.mp h₃
    have given : z.host = x.host := congrArg (·.2.host) (course_query.mp hq).2.symm
    obtain ⟨-, ok, rfl⟩ := course_pure.mp h₅
    cases result with
    | ok done => exact ⟨request, v, x, during, taken.trans parsed, given, hd⟩
    | error e =>
      rw [Outcome.ofResult] at ok
      split at ok <;> cases ok

section Books

variable {cloud : CloudModel σ} {w w' : World σ Ledger}
  {ms : List (World σ Ledger × Exchange Ask.Answer)} {volume : String} {options : Options}

/-- A stage at a free target puts a mount at the end of the table, and formats its device if it is
blank. -/
theorem course_stage_ok
    (h : Course (World.reply cloud bookkeeper) (service.stage volume target options).run w ms
      (.ok ()) w')
    (created : (w.tree.createTarget target).2.IsOwnForm target)
    (free : w.mounter.table.first? target = none) :
    ∃ point made, point.path = target ∧ w'.mounter.table = w.mounter.table ++ [point] ∧
      w.mounter.FormattedOnce made w'.mounter := by
  obtain ⟨request, u, v, es, start, ended, attached⟩ :=
    Service.course_program_ok ⟨.attach, volume, target, options⟩ h
  cases course_attach_end attached with
  | mounting disk x alone _ _ mounted =>
  cases course_mountDevice_end mounted with
  | done _ here mounts =>
  obtain ⟨books, trees⟩ := Prod.mk.inj (alone.trans start)
  have tree : v.tree = (w.tree.createTarget target).2 := by rw [← trees, here]
  rw [books, tree] at mounts
  rw [(Prod.mk.inj ended).1]
  cases mounts with
  | found point _ first _ =>
    rw [MountTable.first?_congr created.lookupPath, free] at first
    cases first
  | made device _ _ asked =>
    obtain ⟨made, once⟩ :=
      (Ledger.changed_formatAndMount w.mounter device target request.fsType.name
        (mountOptions request)).formattedOnce
    rw [asked] at once
    have added := (Ledger.formatAndMount_ok (bind_notMem_mountOptions request) asked).1
    exact ⟨_, made, rfl, added, once⟩

/-- An unstage unmounts the target and leaves all formats. -/
theorem course_unstage_ok
    (h : Course (World.reply cloud bookkeeper) (service.unstage volume target options).run w ms
      (.ok ()) w') :
    w'.mounter.table = unmounted w.tree target w.mounter.table ∧ formatBooks w' = formatBooks w := by
  obtain ⟨request, u, v, es, start, ended, detached⟩ :=
    Service.course_program_ok ⟨.detach, volume, target, options⟩ h
  obtain ⟨x, y, fs, alone, done, unmounts⟩ := course_detach_ok detached
  obtain ⟨books, trees⟩ := Prod.mk.inj (alone.trans start)
  obtain ⟨last, -⟩ := Prod.mk.inj (ended.trans done)
  have formats := formatBooks_unmountTarget unmounts
  rw [formatBooks, formatBooks, books] at formats
  rw [formatBooks, formatBooks, last, ← books, ← trees]
  exact ⟨(course_unmountTarget unmounts).2, books.symm ▸ formats⟩

end Books

/-- A stage and an unstage of a volume that both succeed leave the mounts as they were, and the formats
but for one device at most, if nothing but the two uses the mounter. The target must be a path without
links where nothing is mounted at first; how the cloud answers, and what it comes to know in between,
does not matter. -/
theorem stage_unstage_restores {cloud : CloudModel σ} {cloud' : CloudModel υ} {volume : String}
    {options options' : Options} {world : World σ Ledger} {later : World υ Ledger}
    (created : (world.tree.createTarget target).2.IsOwnForm target)
    (free : ∀ point ∈ world.mounter.table, point.path.same target = false)
    (staged : (World.run cloud bookkeeper (service.stage volume target options).run world).1 =
      .ok ())
    (books : later.mounter =
      (World.run cloud bookkeeper (service.stage volume target options).run world).2.mounter)
    (stays : later.tree.IsOwnForm target)
    (unstaged : (World.run cloud' bookkeeper (service.unstage volume target options').run later).1 =
      .ok ()) :
    let final :=
      (World.run cloud' bookkeeper (service.unstage volume target options').run later).2.mounter
    final.table = world.mounter.table ∧ ∃ made, world.mounter.FormattedOnce made final := by
  have nowhere : world.mounter.table.first? target = none :=
    List.find?_eq_none.mpr fun point hp => by simp [free point hp]
  obtain ⟨point, made, here, added, once⟩ :=
    course_stage_ok (World.course_run staged) created nowhere
  obtain ⟨table, formats⟩ := course_unstage_ok (World.course_run unstaged)
  obtain ⟨formats, formatted⟩ := Prod.mk.inj formats
  rw [← books] at added once
  rw [added, unmounted_concat stays nowhere here] at table
  exact ⟨table, made, once.kept formats formatted⟩

/-! ### A disk that is staged between mounts of others -/

/-- A service whose credentials do not change. -/
def restoringService : Service := ⟨"r", ⟨[], some (Credentials.lasting "id" "secret")⟩, .standard⟩

/-- Options that say all about the place of a node. -/
def restoringOptions : Options := [("nodeId", "i-1"), ("zoneId", "z"), ("regionId", "r")]

/-- Staging the disk. -/
def restoringStage : NodeProgram Answer :=
  (restoringService.stage "d-1" ⟨"/t"⟩ restoringOptions).run

/-- Unstaging it. -/
def restoringUnstage : NodeProgram Answer :=
  (restoringService.unstage "d-1" ⟨"/t"⟩ restoringOptions).run

/-- A call for the disk. -/
def restoringCall (action : Action) : VolumeCall := ⟨action, "d-1", ⟨"/t"⟩, restoringOptions⟩

/-- A world in which the disk is free, and other devices are mounted. -/
def restoringWorld : World Disk Ledger :=
  World.start ⟨"d-1", .available, "", "/v", "", ""⟩
    (.ofTable [⟨⟨"/a"⟩, ⟨"/"⟩, "ext4", [], 0, 0⟩, ⟨⟨"/c"⟩, ⟨"/u"⟩, "ext4", [], 0, 0⟩])
    ⟨[(["u"], .dir)]⟩

/-- The world after the disk was staged. -/
def restoringStaged : World Disk Ledger :=
  (World.run oneDiskCloud bookkeeper restoringStage restoringWorld).2

/-- The request that is read. -/
def restoringRequest : Request := ⟨"d-1", "i-1", "z", "r", .ext4, .available, false, false⟩

theorem parse_restoringOptions :
    (restoringService.parse "d-1" restoringOptions).run = pure (.ok restoringRequest) := rfl

theorem program_restoringCall (action : Action) :
    restoringService.program (restoringCall action) =
      restoringService.carryOut (restoringCall action) (.ok restoringRequest) := by
  rw [Service.program_eq, restoringCall, parse_restoringOptions]
  rfl

theorem restoring_restored :
    (World.run oneDiskCloud bookkeeper restoringStage restoringWorld).1 = .ok () ∧
      (World.run oneDiskCloud bookkeeper restoringUnstage restoringStaged).1 = .ok () ∧
        (World.run oneDiskCloud bookkeeper restoringUnstage restoringStaged).2.mounter.table =
          restoringWorld.mounter.table := by
  have stage : restoringStage = _ := program_restoringCall .attach
  have unstage : restoringUnstage = _ := program_restoringCall .detach
  have staged : (World.run oneDiskCloud bookkeeper restoringStage restoringWorld).1 = .ok () := by
    rw [stage]
    cbv
  have unstaged :
      (World.run oneDiskCloud bookkeeper restoringUnstage restoringStaged).1 = .ok () := by
    rw [restoringStaged, stage, unstage]
    cbv
  have stays : restoringStaged.tree.IsOwnForm ⟨"/t"⟩ := by
    refine ⟨⟨"/t"⟩, ?_, by cbv⟩
    rw [restoringStaged, stage]
    cbv
  have created : (restoringWorld.tree.createTarget ⟨"/t"⟩).2.IsOwnForm ⟨"/t"⟩ :=
    ⟨⟨"/t"⟩, by cbv, by cbv⟩
  have free : ∀ point ∈ restoringWorld.mounter.table, point.path.same ⟨"/t"⟩ = false := by
    decide +kernel
  rw [restoringUnstage]
  exact ⟨staged, unstaged,
    (stage_unstage_restores created free staged rfl stays unstaged).1⟩

end Node
end BlockVolume
