import BlockVolume.Operation.Execute
import BlockVolume.Proofs.Host.Canonical
import BlockVolume.Proofs.Operation.CallBounds
/-!
Attaching a disk that is attached and mounted already.

The look before finds the disk with the node, so it is not attached again; the watch finds it in
use at its first look, if it looks at all; and the mounter shows the device at the target. Only the
watch can end such an attach with an error: a policy that grants no look while the disk settles lets
it give up at once.
-/

namespace BlockVolume.Operation

open BlockVolume.Cloud (ApiError Client Credentials Disk)
open BlockVolume.Host (FileTree)
open BlockVolume.Mount (Ledger MountPoint MountTable)
open BlockVolume.Node (CloudModel World)
open BlockVolume.Program
open BlockVolume.Rehearsal (Script bookkeeper)
open BlockVolume.Volume (Request)

variable {σ : Type} {setting : Setting} {request : Request} {target : Path}

/-! ### Looking and watching -/

section Looks

variable {region expected : String} {client : Client} {es : List (Exchange Ask.Answer)}
  {outcome : Except OperationError (Client × Disk)} {good : Disk → Prop}

/-- A look-up finds what all its looks have found. -/
theorem describe_of_looks (h : History (setting.describe region client).run es outcome)
    (found : ∀ look ∈ looks es, ∃ disk, look = .ok (some disk) ∧ good disk) :
    ∃ next disk, outcome = .ok (next, disk) ∧ good disk := by
  obtain ⟨answer, hm, heq⟩ := sought_describe h fun look hl => by
    obtain ⟨disk, heq, -⟩ := found look hl
    exact ⟨some disk, heq⟩
  obtain ⟨disk, same, fine⟩ := found _ hm
  obtain rfl := Except.ok.inj same
  cases outcome with
  | error e => cases heq
  | ok value =>
    obtain ⟨next, other⟩ := value
    obtain rfl := Except.ok.inj heq
    exact ⟨next, other, rfl, fine⟩

/-- A watch of a disk that has settled ends at its first look, or without any if none is left. -/
theorem watch_of_looks {settled : Disk → Bool} (settles : ∀ disk, good disk → settled disk = true)
    {left attempt : Nat}
    (h : History (setting.watch region expected settled left attempt client).run es outcome)
    (found : ∀ look ∈ looks es, ∃ disk, look = .ok (some disk) ∧ good disk) :
    if left = 0 then
      outcome = .error (.failed setting.context
        (.notSettled expected setting.policy.maxAttempts.toNat))
    else ∃ next disk, outcome = .ok (next, disk) ∧ good disk := by
  cases left with
  | zero => exact (history_fail.mp h).2
  | succ left =>
    rw [if_neg (Nat.succ_ne_zero left)]
    rcases history_step_bind.mp h with ⟨e, hd, -⟩ | ⟨before, ⟨next, disk⟩, after, rfl, hd, ha⟩
    · obtain ⟨_, _, heq, -⟩ := describe_of_looks hd found
      cases heq
    · rw [looks_append] at found
      obtain ⟨_, _, heq, fine⟩ := describe_of_looks hd fun look hl =>
        found look (List.mem_append_left _ hl)
      obtain ⟨rfl, rfl⟩ := Prod.mk.inj (Except.ok.inj heq)
      dsimp only at ha
      rw [if_pos (settles disk fine)] at ha
      exact ⟨next, disk, (history_step_pure.mp ha).2, fine⟩

end Looks

/-! ### Mounting what is mounted -/

section Books

variable {cloud : CloudModel σ} {w w' : World σ Ledger}
  {ms : List (World σ Ledger × Exchange Ask.Answer)}

theorem only_hostDevice (reported : String) :
    Only (fun question => ∃ path, question = .tree (.isPresent path)) (hostDevice reported) := by
  have all (paths : List Path) :
      Only (fun question => ∃ path, question = .tree (.isPresent path)) (firstPresent paths) := by
    induction paths with
    | nil => exact only_pure _
    | cons path rest ih =>
      refine Only.bind (only_query ⟨path, rfl⟩) fun present => ?_
      split
      · exact only_pure _
      · exact ih
  exact (all _).bind fun _ => only_pure _

/-- Looking for a device on the host changes nothing. -/
theorem host_hostDevice {reported : String} {device : Path}
    (h : Course (World.reply cloud bookkeeper) (hostDevice reported) w ms device w') :
    w'.host = w.host := by
  refine (h.frame World.host fun m hm t => ?_).2
  obtain ⟨path, hp⟩ := only_hostDevice reported h.history _ (List.mem_map_of_mem hm)
  rw [hp]
  rfl

/-- A device that the mounter shows at a target that is there is left alone. -/
theorem course_mountDevice_of_shows {disk : Disk} {point : MountPoint}
    {outcome : Except OperationError Unit}
    (h : Course (World.reply cloud bookkeeper) (mountDevice setting request disk target).run w ms
      outcome w') (device : disk.device ≠ "")
    (created : w.tree.createTarget target = (.ok (), w.tree))
    (first : w.mounter.table.first? (Ledger.lookupPath w.tree target) = some point)
    (shown : shows disk.device point = true) :
    outcome = .ok () ∧ w'.mounter = w.mounter ∧ Asked (·.isInspecting) ms := by
  rw [mountDevice, if_neg (by simpa using device)] at h
  obtain ⟨looked, name, u, rest, rfl, hd, h₁⟩ := course_step_lift_bind.mp h
  have asks : Asked (·.isInspecting) looked := asked_of_history (history_hostDevice hd.history).1
  obtain ⟨books, trees⟩ := Prod.mk.inj (host_hostDevice hd)
  rw [← trees] at created first
  rw [← books] at first
  obtain ⟨_, reply, v, rest, rfl, hq, h₂⟩ := course_step_lift_bind.mp h₁
  obtain ⟨rfl, hc⟩ := course_query.mp hq
  have made : World.reply cloud bookkeeper (.tree (.createTarget target)) u = (.ok (), u) := by
    simp only [World.reply, World.answer, World.answerTree, created]
    rfl
  obtain ⟨rfl, rfl⟩ := Prod.mk.inj (made.symm.trans hc)
  obtain ⟨e, he, -⟩ | ⟨⟨⟩, -, h₃⟩ := course_onHost_bind.mp h₂
  · cases he
  obtain ⟨_, found, x, rest, rfl, hq, h₄⟩ := course_step_lift_bind.mp h₃
  obtain ⟨rfl, hf⟩ := course_query.mp hq
  obtain ⟨rfl, rfl⟩ := Prod.mk.inj hf
  obtain ⟨e, he, -⟩ | ⟨mounted, hm, h₅⟩ := course_onHost_bind.mp h₄
  · cases he
  have mounted_eq : mounted = u.mounter.table.deviceAt (Ledger.lookupPath u.tree target) :=
    (Except.ok.inj hm).symm
  rw [mounted_eq, MountTable.deviceAt, first] at h₅
  rw [shows] at shown
  simp only [Option.map, if_pos shown] at h₅
  obtain ⟨rfl, rfl, rfl⟩ := course_pure.mp h₅
  exact ⟨rfl, books, by simp [asks]⟩

/-- A disk in use by the node of a request, with a device that the first mount at a path shows. -/
structure IsMounted (request : Request) (table : MountTable) (path : Path) (disk : Disk) :
    Prop where
  inUse : disk.status = .inUse
  held : disk.holder = request.node
  device : disk.device ≠ ""
  shown : ∃ point, table.first? path = some point ∧ shows disk.device point = true

theorem IsMounted.isAttachedTo {table : MountTable} {path : Path} {disk : Disk}
    (h : IsMounted request table path disk) : disk.isAttachedTo request.node = true := by
  simp [Disk.isAttachedTo, h.inUse, h.held]

theorem IsMounted.isSettledOn {table : MountTable} {path : Path} {disk : Disk}
    (h : IsMounted request table path disk) : disk.isSettledOn request.node = true := by
  simp [Disk.isSettledOn, h.inUse, h.held]

/-- What a path to the target finds is found at its link-free form. -/
theorem IsMounted.congr {table : MountTable} {path form : Path} {disk : Disk}
    (h : IsMounted request table path disk) (same : form.same path = true) :
    IsMounted request table form disk where
  inUse := h.inUse
  held := h.held
  device := h.device
  shown := by
    obtain ⟨point, first, shown⟩ := h.shown
    exact ⟨point, (MountTable.first?_congr same).trans first, shown⟩

/-- Looking at the disk leaves the host and the disk alone. -/
theorem course_looking {α : Type} {p : NodeProgram α} {result : α}
    (h : Course (World.reply cloud bookkeeper) p w ms result w') (asked : Asked (·.isLooking) ms) :
    w'.host = w.host ∧ Asked (·.isMoving = false) ms :=
  ⟨World.host_looking h asked, asked.imp fun _ => Ask.isMoving_of_isLooking⟩

/-- The disk is watched, if a look is granted, and its device is found at the target. -/
theorem course_watch_mount_of_looks {client : Client} {outcome : Except OperationError Unit}
    (h : Course (World.reply cloud bookkeeper) (ExceptT.run
      (setting.waitFor request.region "attached" (·.isSettledOn request.node) client >>=
        fun found => mountDevice setting request found.2 target)) w ms outcome w')
    (found : ∀ look ∈ looks (ms.map Prod.snd), ∃ disk, look = .ok (some disk) ∧
      IsMounted request w.mounter.table (Ledger.lookupPath w.tree target) disk)
    (created : w.tree.createTarget target = (.ok (), w.tree)) :
    (outcome = if setting.policy.maxAttempts.toNat = 0 then
        .error (.failed setting.context (.notSettled "attached" 0)) else .ok ()) ∧
      w'.mounter = w.mounter ∧ Asked (·.isMoving = false) ms := by
  have settles (disk : Disk)
      (mounted : IsMounted request w.mounter.table (Ledger.lookupPath w.tree target) disk) :
      disk.isSettledOn request.node = true := mounted.isSettledOn
  rcases course_step_bind.mp h with ⟨e, hw, rfl⟩ | ⟨watching, ⟨next, disk⟩, u, rest, rfl, hw, hm⟩
  · have ended := watch_of_looks settles hw.history found
    obtain ⟨same, unmoved⟩ := course_looking hw (asked_watch hw)
    refine ⟨?_, congrArg Prod.fst same, unmoved⟩
    split at ended
    case isTrue none =>
      obtain rfl := Except.error.inj ended
      rw [if_pos none, none]
    case isFalse =>
      obtain ⟨_, _, heq, -⟩ := ended
      cases heq
  · rw [List.map_append, looks_append] at found
    have ended := watch_of_looks settles hw.history fun look hl =>
      found look (List.mem_append_left _ hl)
    obtain ⟨same, unmoved⟩ := course_looking hw (asked_watch hw)
    obtain ⟨books, trees⟩ := Prod.mk.inj same
    split at ended
    case isTrue => cases ended
    case isFalse some =>
      obtain ⟨_, _, heq, mounted⟩ := ended
      obtain ⟨rfl, rfl⟩ := Prod.mk.inj (Except.ok.inj heq)
      obtain ⟨point, first, shown⟩ := mounted.shown
      rw [← trees] at created first
      rw [← books] at first
      obtain ⟨rfl, left, asked⟩ :=
        course_mountDevice_of_shows hm mounted.device created first shown
      refine ⟨(if_neg some).symm, left.trans books, asked_append.mpr ⟨unmoved, ?_⟩⟩
      exact asked.imp fun _ => Ask.isMoving_of_isInspecting

theorem course_attach_of_looks {outcome : Except OperationError Unit}
    (h : Course (World.reply cloud bookkeeper) (attach setting request target).run w ms outcome w')
    (credentials :
      ((Client.connect setting.source).run (World.reply cloud bookkeeper) w).1.isSome = true)
    (found : ∀ look ∈ looks (ms.map Prod.snd), ∃ disk, look = .ok (some disk) ∧
      IsMounted request w.mounter.table (Ledger.lookupPath w.tree target) disk)
    (created : w.tree.createTarget target = (.ok (), w.tree)) :
    (outcome = if setting.policy.maxAttempts.toNat = 0 then
        .error (.failed setting.context (.notSettled "attached" 0)) else .ok ()) ∧
      w'.mounter = w.mounter ∧ Asked (·.isMoving = false) ms := by
  rcases course_step_bind.mp h with ⟨e, hc, -⟩ | ⟨first, client, u, rest, rfl, hc, h₁⟩
  · obtain ⟨client, heq⟩ := course_connect hc credentials
    cases heq
  rw [List.map_append, looks_append] at found
  obtain ⟨same₁, unmoved₁⟩ := course_looking hc (asked_connect hc)
  rcases course_step_bind.mp h₁ with ⟨e, hd, -⟩ | ⟨second, ⟨next, disk⟩, v, rest, rfl, hd, h₂⟩
  · obtain ⟨_, _, heq, -⟩ := describe_of_looks hd.history fun look hl =>
      found look (List.mem_append_right _ hl)
    cases heq
  rw [List.map_append, looks_append] at found
  obtain ⟨_, _, heq, mounted⟩ := describe_of_looks hd.history fun look hl =>
    found look (List.mem_append_right _ (List.mem_append_left _ hl))
  obtain ⟨rfl, rfl⟩ := Prod.mk.inj (Except.ok.inj heq)
  obtain ⟨same₂, unmoved₂⟩ :=
    course_looking hd (asked_of_history (looks_describe hd.history).1)
  obtain ⟨books, trees⟩ := Prod.mk.inj (same₂.trans same₁)
  dsimp only at h₂
  rw [if_pos mounted.isAttachedTo] at h₂
  rw [← books, ← trees] at found
  rw [← trees] at created
  obtain ⟨ended, left, unmoved₃⟩ := course_watch_mount_of_looks h₂
    (fun look hl => found look (List.mem_append_right _ (List.mem_append_right _ hl))) created
  exact ⟨ended, left.trans books, by simp [unmoved₁, unmoved₂, unmoved₃]⟩

/-- What such an attach finds. -/
structure FindsAttached (cloud : CloudModel σ) (attacher : Attacher) (request : Request)
    (target : Path) (world : World σ Ledger) : Prop where
  /-- Usable credentials resolve. -/
  credentials :
    ((Client.connect attacher.source).run (World.reply cloud bookkeeper) world).1.isSome = true
  /-- All looks find the disk in use by the node, with a device that is mounted at the target. -/
  looks : ∀ look ∈ looks (((attacher.execute .attach request target).moments
      (World.reply cloud bookkeeper) world).map Prod.snd),
    ∃ disk, look = .ok (some disk) ∧ IsMounted request world.mounter.table target disk
  /-- The target is a directory, and its own link-free form. -/
  directory : world.tree.isDirectory target = true
  canonical : ∃ form, world.tree.canonical? target = some form ∧ form.same target = true

/-- Attaching a disk that is attached and mounted already succeeds exactly if the policy grants a
look while the disk settles. In any case the disk is not attached again, and the books stay as they
are. -/
theorem attach_settled_iff {attacher : Attacher} {world : World σ Ledger}
    (h : FindsAttached cloud attacher request target world) :
    let attach := attacher.execute .attach request target
    ((World.run cloud bookkeeper attach world).1 = .success ↔ attacher.policy.maxAttempts ≠ 0) ∧
      (World.run cloud bookkeeper attach world).2.mounter = world.mounter ∧
        ∀ m ∈ attach.moments (World.reply cloud bookkeeper) world,
          m.2.question.isMoving = false := by
  intro attach
  have whole := course_self (World.reply cloud bookkeeper) attach world
  obtain ⟨ms, outcome, w', rest, split, hc, ended⟩ := course_bind.mp whole
  obtain ⟨rfl, result, rfl⟩ := course_pure.mp ended
  rw [List.append_nil] at split
  obtain ⟨form, canonical, same⟩ := h.canonical
  have created := FileTree.createTarget_of_canonical h.directory canonical same
  have found : ∀ look ∈ looks (ms.map Prod.snd), ∃ disk, look = .ok (some disk) ∧
      IsMounted request world.mounter.table (Ledger.lookupPath world.tree target) disk := by
    intro look hl
    rw [← split] at hl
    obtain ⟨disk, heq, mounted⟩ := h.looks look hl
    refine ⟨disk, heq, ?_⟩
    rw [Ledger.lookupPath, canonical, Option.getD_some]
    exact mounted.congr same
  obtain ⟨heq, left, unmoved⟩ := course_attach_of_looks hc h.credentials found created
  refine ⟨?_, ?_, ?_⟩
  · have none_iff : attacher.policy.maxAttempts.toNat = 0 ↔ attacher.policy.maxAttempts = 0 :=
      ⟨fun none => UInt32.toNat_inj.mp none, fun none => none ▸ rfl⟩
    rw [World.run, result, heq, ne_eq, ← none_iff]
    change Outcome.ofResult (if attacher.policy.maxAttempts.toNat = 0 then _ else _) = _ ↔ _
    split
    case isTrue none =>
      simp [none, Outcome.ofResult, OperationError.isRetryable, Problem.isRetryable]
    case isFalse some => simp [some, Outcome.ofResult]
  · exact left
  · rw [split]
    exact unmoved

end Books

/-! ### A disk that stays in use -/

/-- A disk in use, reported under a name that the host does not use. -/
def stayingDisk : Disk := ⟨"d-1", .inUse, "i-1", "/dev/xvdb", "", ""⟩

/-- A cloud that always shows it. -/
def stayingCloud : CloudModel Unit where
  metadata _ s := (none, s)
  accepts _ s := (true, s)
  describe _ _ _ s := ((.ok (some stayingDisk), 0), s)
  change _ _ _ _ s := ((.ok (), 0), s)

/-- A world in which its device is mounted. -/
def stayingWorld : World Unit Ledger :=
  World.start () (.ofTable [⟨⟨"/dev/vdb"⟩, ⟨"/t"⟩, "ext4", [], 0, 0⟩]) ⟨[(["t"], .dir)]⟩

/-- An attacher that makes the given number of attempts. -/
def stayingAttacher (attempts : UInt32) : Attacher :=
  ⟨⟨[], some (Credentials.lasting "id" "secret")⟩, ⟨attempts, 100, 1000⟩⟩

/-- The request for the disk. -/
def stayingRequest : Request := ⟨"d-1", "i-1", "z", "r", .ext4, .available, false, false⟩

theorem findsAttached_stayingWorld (attempts : UInt32) :
    FindsAttached stayingCloud (stayingAttacher attempts) stayingRequest ⟨"/t"⟩ stayingWorld where
  credentials := by cbv
  looks := by
    have mounted : IsMounted stayingRequest stayingWorld.mounter.table ⟨"/t"⟩ stayingDisk :=
      ⟨rfl, rfl, by decide, ⟨⟨"/dev/vdb"⟩, ⟨"/t"⟩, "ext4", [], 0, 0⟩, by cbv, by cbv⟩
    exact forall_looks (course_self _ _ _) fun _ _ _ _ => ⟨stayingDisk, rfl, mounted⟩
  directory := by cbv
  canonical := ⟨⟨"/t"⟩, by cbv, by cbv⟩

theorem staying_attached :
    FindsAttached stayingCloud (stayingAttacher 1) stayingRequest ⟨"/t"⟩ stayingWorld ∧
      (World.run stayingCloud bookkeeper
        ((stayingAttacher 1).execute .attach stayingRequest ⟨"/t"⟩) stayingWorld).1 = .success :=
  ⟨findsAttached_stayingWorld 1,
    (attach_settled_iff (findsAttached_stayingWorld 1)).1.mpr (by decide)⟩

/-- Without a look to settle by, the attach gives up. -/
theorem staying_not_attached :
    FindsAttached stayingCloud (stayingAttacher 0) stayingRequest ⟨"/t"⟩ stayingWorld ∧
      (World.run stayingCloud bookkeeper
        ((stayingAttacher 0).execute .attach stayingRequest ⟨"/t"⟩) stayingWorld).1 =
          .retryable .timeout
            "attach of disk d-1 on node i-1: disk did not become attached after 0 checks" := by
  refine ⟨findsAttached_stayingWorld 0, ?_⟩
  have ended : (((stayingAttacher 0).perform .attach stayingRequest ⟨"/t"⟩).run.run
      (World.reply stayingCloud bookkeeper) stayingWorld).1 =
        .error (.failed ⟨.attach, "d-1", "i-1"⟩ (.notSettled "attached" 0)) := by
    cbv
  rw [World.run]
  refine (congrArg Prod.fst (run_bind _ _ _ _)).trans ?_
  rw [ended]
  rfl

end BlockVolume.Operation
