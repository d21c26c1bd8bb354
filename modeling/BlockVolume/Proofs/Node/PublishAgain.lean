import BlockVolume.Proofs.Host.Canonical
import BlockVolume.Proofs.Node.ConcurrentPublish
import BlockVolume.Proofs.Node.Restoring
/-!
Publishing and unpublishing any number of times.

The first publication puts one entry at the end of the table, and the first unpublication takes it
away. All that come after them find their work done, and leave the host alone. So it makes no
difference how many there are of each, and what one publication was asked for counts alone.
-/

namespace BlockVolume.Node

open BlockVolume.Host (FileTree)
open BlockVolume.Mount (Ledger MountPoint MountTable)
open BlockVolume.Program
open BlockVolume.Rehearsal (Script bookkeeper)

variable {σ μ α : Type}

/-! ### Operations one after the other -/

/-- Runs operations one after the other, each of them alone. -/
def World.runEach (cloud : CloudModel σ) (mounter : MounterModel μ) :
    List (NodeProgram α) → World σ μ → List α × World σ μ
  | [], world => ([], world)
  | program :: programs, world =>
    let (answer, world) := world.run cloud mounter program
    let (answers, world) := world.runEach cloud mounter programs
    (answer :: answers, world)

/-- Operations that leave a host as it is, and have one answer there, leave it so all together. -/
theorem World.runEach_still {cloud : CloudModel σ} {mounter : MounterModel μ}
    {programs : List (NodeProgram α)} {host : μ × FileTree} {answer : α}
    (still : ∀ program ∈ programs, ∀ world : World σ μ, world.host = host →
      (world.run cloud mounter program).1 = answer ∧
        (world.run cloud mounter program).2.host = host)
    (world : World σ μ) (here : world.host = host) :
    (world.runEach cloud mounter programs).1 = List.replicate programs.length answer ∧
      (world.runEach cloud mounter programs).2.host = host := by
  induction programs generalizing world with
  | nil => exact ⟨rfl, here⟩
  | cons program programs ih =>
    obtain ⟨first, kept⟩ := still program List.mem_cons_self world here
    obtain ⟨others, left⟩ :=
      ih (fun later mem => still later (List.mem_cons_of_mem program mem)) _ kept
    exact ⟨congrArg₂ List.cons first others, left⟩

/-! ### One operation -/

variable {staging target : Path} {readOnly : Bool}

/-- The entry that a publication adds to the books. -/
def publishedPoint (table : MountTable) (staging target : Path) (readOnly : Bool) : MountPoint :=
  ⟨((table.first? staging).map MountPoint.device).getD staging, target, "",
    publishOptions readOnly, 0, 0⟩

/-- The books after a publication that found nothing at its target. -/
def bookPublished (ledger : Ledger) (staging target : Path) (readOnly : Bool) : Ledger :=
  let point := publishedPoint ledger.table staging target readOnly
  { ledger with table := ledger.table ++ [point] }.record (.mount target point.device "")

theorem mount_published (ledger : Ledger) :
    ledger.mount (some staging) target "" (publishOptions readOnly) =
      (.ok (), bookPublished ledger staging target readOnly) := by
  have bound : (publishOptions readOnly).contains "bind" = true := by
    cases readOnly <;> decide
  have device : ledger.sourceDevice staging (publishOptions readOnly) =
      (publishedPoint ledger.table staging target readOnly).device := by
    rw [Ledger.sourceDevice, if_pos bound, publishedPoint]
    cases ledger.table.first? staging <;> rfl
  simp only [Ledger.mount, device]
  rfl

/-- A lookup shows what is mounted at a target that is its own form. -/
theorem deviceAt_lookupPath {tree : FileTree} (own : tree.IsOwnForm target) (table : MountTable) :
    table.deviceAt (Ledger.lookupPath tree target) = table.deviceAt target := by
  rw [MountTable.deviceAt, MountTable.first?_congr own.lookupPath, ← MountTable.deviceAt]

/-- A publication at a directory makes a mount there unless there is one. -/
theorem PublishRun.of_own {tree made : FileTree} {ledger after : Ledger} {answer : Answer}
    (h : PublishRun bookkeeper staging target readOnly tree ledger answer made after)
    (directory : tree.isDirectory target = true) (own : tree.IsOwnForm target) :
    answer = .ok () ∧ made = tree ∧ after =
      match ledger.table.first? target with
      | none => bookPublished ledger staging target readOnly
      | some _ => ledger := by
  have created : tree.createTarget target = (.ok (), tree) := by
    obtain ⟨form, canonical, same⟩ := own
    exact FileTree.createTarget_of_canonical directory canonical same
  have shown : bookkeeper.answer (.deviceAt target) tree ledger =
      (.ok (ledger.table.deviceAt target), ledger) := by
    rw [← deviceAt_lookupPath own]
    rfl
  cases h with
  | noTarget create => cases created.symm.trans create
  | noTable create look =>
    obtain ⟨-, rfl⟩ := Prod.mk.inj (created.symm.trans create)
    cases shown.symm.trans look
  | present create look =>
    obtain ⟨-, rfl⟩ := Prod.mk.inj (created.symm.trans create)
    obtain ⟨found, rfl⟩ := Prod.mk.inj (shown.symm.trans look)
    obtain ⟨point, first, -⟩ := Option.map_eq_some_iff.mp (Except.ok.inj found)
    rw [first]
    exact ⟨rfl, rfl, rfl⟩
  | mount create look bind =>
    obtain ⟨-, rfl⟩ := Prod.mk.inj (created.symm.trans create)
    obtain ⟨none, rfl⟩ := Prod.mk.inj (shown.symm.trans look)
    obtain ⟨rfl, rfl⟩ := Prod.mk.inj ((mount_published ledger).symm.trans bind)
    rw [MountTable.deviceAt_eq_none.mp (Except.ok.inj none)]
    exact ⟨rfl, rfl, rfl⟩

variable (cloud : CloudModel σ) (world : World σ Ledger)

/-- An unpublication takes the mount at its target away if there is one. -/
theorem run_unpublish_own (own : world.tree.IsOwnForm target) :
    let ended := world.run cloud bookkeeper (unpublish target).run
    ended.1 = .ok () ∧ ended.2.host =
      (match world.mounter.table.first? target with
        | none => world.mounter
        | some _ => world.mounter.unmount target, world.tree) := by
  intro ended
  obtain ⟨done, left⟩ := run_unpublish cloud world target
  rw [deviceAt_lookupPath own, MountTable.deviceAt] at left
  refine ⟨done, left.trans ?_⟩
  cases world.mounter.table.first? target <;> rfl

/-! ### Many operations -/

/-- Publications of what is staged, one after the other. -/
def publications (staging target : Path) (flags : List Bool) : List (NodeProgram Answer) :=
  flags.map fun readOnly => (publish staging target readOnly).run

/-- Unpublications, one after the other. -/
def unpublications (target : Path) (times : Nat) : List (NodeProgram Answer) :=
  List.replicate times (unpublish target).run

/-- Where something is mounted, publications leave everything as it is. -/
theorem runEach_published {point : MountPoint} (staging : Path) (flags : List Bool)
    (directory : world.tree.isDirectory target = true) (own : world.tree.IsOwnForm target)
    (mounted : world.mounter.table.first? target = some point) :
    (world.runEach cloud bookkeeper (publications staging target flags)).1 =
        List.replicate flags.length (.ok ()) ∧
      (world.runEach cloud bookkeeper (publications staging target flags)).2.host = world.host := by
  have length : (publications staging target flags).length = flags.length := List.length_map _
  rw [← length]
  refine World.runEach_still (fun program mem other here => ?_) world rfl
  obtain ⟨readOnly, -, rfl⟩ := List.mem_map.mp mem
  obtain ⟨ledger, tree⟩ := Prod.mk.inj here
  obtain ⟨done, made, kept⟩ :=
    (publishRun_run cloud bookkeeper staging target readOnly other).of_own (tree ▸ directory)
      (tree ▸ own)
  rw [ledger, mounted] at kept
  exact ⟨done, Prod.ext kept (made.trans tree)⟩

/-- Where nothing is mounted, unpublications leave everything as it is. -/
theorem runEach_unpublished (times : Nat) (own : world.tree.IsOwnForm target)
    (free : world.mounter.table.first? target = none) :
    (world.runEach cloud bookkeeper (unpublications target times)).1 =
        List.replicate times (.ok ()) ∧
      (world.runEach cloud bookkeeper (unpublications target times)).2.host = world.host := by
  have length : (unpublications target times).length = times := List.length_replicate
  nth_rewrite 2 [← length]
  refine World.runEach_still (fun program mem other here => ?_) world rfl
  obtain rfl := List.eq_of_mem_replicate mem
  obtain ⟨ledger, tree⟩ := Prod.mk.inj here
  obtain ⟨done, kept⟩ := run_unpublish_own cloud other (tree ▸ own)
  rw [ledger, free, tree] at kept
  exact ⟨done, kept⟩

/-- The first of many publications leaves one new entry, at the end of the table. -/
theorem runEach_publications (staging : Path) (first : Bool) (flags : List Bool)
    (directory : world.tree.isDirectory target = true) (own : world.tree.IsOwnForm target)
    (free : world.mounter.table.first? target = none) :
    let published := world.runEach cloud bookkeeper (publications staging target (first :: flags))
    published.1 = List.replicate (flags.length + 1) (.ok ()) ∧
      published.2.host = (bookPublished world.mounter staging target first, world.tree) := by
  intro published
  obtain ⟨done, made, booked⟩ :=
    (publishRun_run cloud bookkeeper staging target first world).of_own directory own
  rw [free] at booked
  let point := publishedPoint world.mounter.table staging target first
  have mounted : MountTable.first? (world.mounter.table ++ [point]) target = some point :=
    MountTable.first?_concat free (Path.same_refl target)
  obtain ⟨others, left⟩ := runEach_published cloud _ staging flags (made ▸ directory) (made ▸ own)
    ((congrArg (·.table.first? target) booked).trans mounted)
  exact ⟨congrArg₂ List.cons done others, left.trans (Prod.ext booked made)⟩

/-- The first of many unpublications takes the entry at the target away. -/
theorem runEach_unpublications {point : MountPoint} (times : Nat)
    (own : world.tree.IsOwnForm target) (mounted : world.mounter.table.first? target = some point)
    (alone : (world.mounter.table.removeFirst target).first? target = none) :
    let unpublished := world.runEach cloud bookkeeper (unpublications target (times + 1))
    unpublished.1 = List.replicate (times + 1) (.ok ()) ∧
      unpublished.2.host = (world.mounter.unmount target, world.tree) := by
  intro unpublished
  obtain ⟨done, booked⟩ := run_unpublish_own cloud world own
  rw [mounted] at booked
  have made : (world.run cloud bookkeeper (unpublish target).run).2.tree = world.tree :=
    congrArg Prod.snd booked
  obtain ⟨others, left⟩ := runEach_unpublished cloud _ times (made ▸ own)
    ((congrArg (·.1.table.first? target) booked).trans alone)
  exact ⟨congrArg₂ List.cons done others, left.trans booked⟩

/-- At a directory where nothing is mounted, any number of publications is one new entry at the end
of the table, and any number of unpublications after them leaves the table as it was — with one
mount and one unmount in all. -/
theorem publish_unpublish_restores (cloud : CloudModel σ) (world : World σ Ledger)
    (staging target : Path) (first : Bool) (flags : List Bool) (times : Nat)
    (directory : world.tree.isDirectory target = true) (own : world.tree.IsOwnForm target)
    (free : ∀ point ∈ world.mounter.table, point.path.same target = false) :
    let published := world.runEach cloud bookkeeper (publications staging target (first :: flags))
    let unpublished := published.2.runEach cloud bookkeeper (unpublications target (times + 1))
    let device := ((world.mounter.table.first? staging).map MountPoint.device).getD staging
    published.1 = List.replicate (flags.length + 1) (.ok ()) ∧
      published.2.mounter.table = world.mounter.table ++
        [⟨device, target, "", publishOptions first, 0, 0⟩] ∧
      unpublished.1 = List.replicate (times + 1) (.ok ()) ∧
      unpublished.2.mounter.table = world.mounter.table ∧
      unpublished.2.mounter.actions =
        world.mounter.actions ++ [.mount target device "", .unmount target] := by
  intro published unpublished device
  let point := publishedPoint world.mounter.table staging target first
  have free : world.mounter.table.first? target = none := by simpa [MountTable.first?] using free
  have here : point.path.same target = true := Path.same_refl target
  obtain ⟨done, left⟩ := runEach_publications cloud world staging first flags directory own free
  obtain ⟨booked, made⟩ := Prod.mk.inj left
  have mounted : published.2.mounter.table = world.mounter.table ++ [point] :=
    congrArg Ledger.table booked
  have emptied : published.2.mounter.table.removeFirst target = world.mounter.table := by
    rw [mounted, MountTable.removeFirst_concat free here]
  have found : published.2.mounter.table.first? target = some point := by
    rw [mounted, MountTable.first?_concat free here]
  obtain ⟨undone, restored⟩ := runEach_unpublications cloud published.2 times (made ▸ own) found
    (by rw [emptied, free])
  have unbooked : unpublished.2.mounter = published.2.mounter.unmount target :=
    congrArg Prod.fst restored
  refine ⟨done, mounted, undone, ?_, ?_⟩
  · rw [unbooked]
    exact emptied
  · have booked : published.2.mounter = bookPublished world.mounter staging target first := booked
    have logged : unpublished.2.mounter.log =
        .unmount target :: .mount target device "" :: world.mounter.log := by
      rw [unbooked, booked]
      rfl
    simp [Ledger.actions, logged]

/-- A world in which two devices are staged at `/s`, one of them also at another path. -/
def twiceStaged : World Script Ledger :=
  .start Script.quiet
    (.ofTable [⟨⟨"/dev/a"⟩, ⟨"/s"⟩, "ext4", [], 0, 0⟩, ⟨⟨"/dev/b"⟩, ⟨"/s"⟩, "ext3", [], 0, 0⟩,
      ⟨⟨"/dev/a"⟩, ⟨"/x"⟩, "ext4", [], 0, 0⟩])
    sampleTree

/-- The world after what is staged at `/s` was published at `/t`, read-only and then again. -/
def twicePublished : World Script Ledger :=
  (twiceStaged.runEach Script.cloud bookkeeper
    (publications ⟨"/s"⟩ ⟨"/t"⟩ [true, false])).2

theorem twiceStaged_restored :
    let unpublished := twicePublished.runEach Script.cloud bookkeeper (unpublications ⟨"/t"⟩ 2)
    twicePublished.mounter.table = twiceStaged.mounter.table ++
        [⟨⟨"/dev/a"⟩, ⟨"/t"⟩, "", ["bind", "ro"], 0, 0⟩] ∧
      unpublished.2.mounter.table = twiceStaged.mounter.table ∧
      unpublished.2.mounter.actions =
        [.mount ⟨"/t"⟩ ⟨"/dev/a"⟩ "", .unmount ⟨"/t"⟩] := by
  have directory : twiceStaged.tree.isDirectory ⟨"/t"⟩ = true := by cbv
  have own : twiceStaged.tree.IsOwnForm ⟨"/t"⟩ := ⟨⟨"/t"⟩, by cbv, by cbv⟩
  have free : ∀ point ∈ twiceStaged.mounter.table, point.path.same ⟨"/t"⟩ = false := by
    decide +kernel
  have staged : ((twiceStaged.mounter.table.first? ⟨"/s"⟩).map MountPoint.device).getD ⟨"/s"⟩ =
      ⟨"/dev/a"⟩ := by
    cbv
  obtain ⟨-, mounted, -, restored, logged⟩ := publish_unpublish_restores Script.cloud twiceStaged
    ⟨"/s"⟩ ⟨"/t"⟩ true [false] 1 directory own free
  rw [staged] at mounted logged
  exact ⟨mounted, restored, logged⟩

end BlockVolume.Node
