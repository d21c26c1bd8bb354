import BlockVolume.Proofs.Operation.DetachClear
/-!
Detaching a disk that is detached already.

A detach succeeds in three ways: the disk is not known, it is not with the node, or it was detached
and has settled. In each of them the last look has found no disk, or a disk that is free of the
node; and what settles a detach is what makes the next one skip it.
-/

namespace BlockVolume.Operation

open BlockVolume.Cloud (ApiError Client Credentials Disk)
open BlockVolume.Mount (Ledger)
open BlockVolume.Node (CloudModel World)
open BlockVolume.Program
open BlockVolume.Rehearsal (bookkeeper)
open BlockVolume.Volume (Request)

variable {σ : Type} {setting : Setting} {request : Request} {target : Path}
  {es : List (Exchange Ask.Answer)}

/-- A look that leaves nothing to detach: there is no disk, or it is free of the node. -/
def IsClear (node : String) (look : Except ApiError (Option Disk)) : Prop :=
  look = .ok none ∨ ∃ disk : Disk, look = .ok (some disk) ∧ disk.isFreeOf node = true

/-! ### The last look of a detach -/

/-- The last look of a detach that succeeds leaves nothing to detach. -/
theorem isClear_of_detach (h : History (detach setting request target).run es (.ok ())) :
    ∃ look, (looks es).getLast? = some look ∧ IsClear request.node look := by
  rw [detach_eq] at h
  rcases history_step_bind.mp h with ⟨e, -, heq⟩ | ⟨opening, found, rest, rfl, hf, hr⟩
  · cases heq
  obtain ⟨before, described, -⟩ := looks_findDisk hf
  rcases detachFound_cases setting request target found with
    ⟨unmounts, free⟩ | ⟨client, disk, rfl, -, held⟩
  · rw [unmounts] at hr
    refine ⟨.ok (found.map Prod.snd), by simp [looks_unmountTarget hr, described], ?_⟩
    rcases found with _ | ⟨client, disk⟩
    · exact Or.inl rfl
    · exact Or.inr ⟨disk, rfl, free client disk rfl⟩
  rw [held] at hr
  obtain ⟨_, own, rest, rfl, -, h₁⟩ := history_step_lift_bind.mp hr
  rcases history_step_bind.mp h₁ with ⟨e, -, heq⟩ | ⟨_, busy, rest, rfl, -, h₂⟩
  · cases heq
  split at h₂
  case isFalse => cases (history_fail.mp h₂).2
  case isTrue =>
  rcases history_step_bind.mp h₂ with ⟨e, -, heq⟩ | ⟨_, ⟨⟩, rest, rfl, -, h₃⟩
  · cases heq
  rcases history_step_bind.mp h₃ with ⟨e, -, heq⟩ | ⟨_, ⟨last, ⟨⟩⟩, rest, rfl, -, h₄⟩
  · cases heq
  rcases history_step_bind.mp h₄ with ⟨e, -, heq⟩ | ⟨watching, ⟨final, settled⟩, rest, rfl, hw, h₅⟩
  · cases heq
  obtain ⟨rfl, -⟩ := history_step_pure.mp h₅
  obtain ⟨free, hl⟩ := (looks_watch hw).2 final settled rfl
  exact ⟨_, by simp [List.getLast?_append, hl], Or.inr ⟨settled, rfl, free⟩⟩

/-! ### The next detach -/

/-- A disk that all looks find free of the node, or not at all, is known for what it is. -/
theorem describe?_of_isClear {node region : String} {client : Client}
    {outcome : Except OperationError (Option (Client × Disk))}
    (h : History (describe? setting region client).run es outcome)
    (clear : ∀ look ∈ looks es, IsClear node look) :
    ∃ found, outcome = .ok found ∧ ∀ next disk, found = some (next, disk) →
      disk.isFreeOf node = true := by
  obtain ⟨before, described, after, rfl, hd, ha⟩ := history_bind.mp h
  rw [looks_append] at clear
  have well : ∀ look ∈ looks before, ∃ found, look = .ok found := fun look hl => by
    rcases clear look (List.mem_append_left _ hl) with rfl | ⟨disk, rfl, -⟩
    · exact ⟨none, rfl⟩
    · exact ⟨some disk, rfl⟩
  obtain ⟨found, hm, heq⟩ := sought_describe hd well
  match found, described, heq with
  | none, .error e, heq =>
    obtain rfl := Except.error.inj heq
    exact ⟨none, (history_pure.mp ha).2, fun _ _ same => by cases same⟩
  | some disk, .ok (next, other), heq =>
    obtain rfl := Except.ok.inj heq
    refine ⟨some (next, other), (history_pure.mp ha).2, fun _ _ same => ?_⟩
    obtain ⟨rfl, rfl⟩ := Prod.mk.inj (Option.some.inj same)
    rcases clear _ (List.mem_append_left _ hm) with none | ⟨disk, same, free⟩
    · cases none
    · obtain rfl := Option.some.inj (Except.ok.inj same)
      exact free

section Books

variable {cloud : CloudModel σ} {w w' : World σ Ledger}
  {ms : List (World σ Ledger × Exchange Ask.Answer)}

/-- Where credentials serve and all looks find nothing to detach, the disk is taken for what it is. -/
theorem findDisk_of_isClear {region node : String}
    {outcome : Except OperationError (Option (Client × Disk))}
    (h : Course (World.reply cloud bookkeeper) (findDisk setting region).run w ms outcome w')
    (credentials :
      ((Client.connect setting.source).run (World.reply cloud bookkeeper) w).1.isSome = true)
    (clear : ∀ look ∈ looks (ms.map Prod.snd), IsClear node look) :
    ∃ found, outcome = .ok found ∧ ∀ client disk, found = some (client, disk) →
      disk.isFreeOf node = true := by
  rcases course_step_bind.mp h with ⟨e, hc, -⟩ | ⟨first, client, u, rest, rfl, hc, hd⟩
  · obtain ⟨client, connected⟩ := course_connect hc credentials
    cases connected
  rw [List.map_append, looks_append] at clear
  exact describe?_of_isClear hd.history fun look hl => clear look (List.mem_append_right _ hl)

/-- Where all looks find nothing to detach, a detach succeeds without detaching the disk. -/
theorem course_detach_of_isClear {outcome : Except OperationError Unit}
    (h : Course (World.reply cloud bookkeeper) (detach setting request target).run w ms outcome w')
    (credentials :
      ((Client.connect setting.source).run (World.reply cloud bookkeeper) w).1.isSome = true)
    (clear : ∀ look ∈ looks (ms.map Prod.snd), IsClear request.node look) :
    outcome = .ok () ∧ Asked (·.isDetaching = false) ms := by
  rw [detach_eq] at h
  rcases course_step_bind.mp h with ⟨e, hf, -⟩ | ⟨opening, found, u, rest, rfl, hf, hr⟩
  · obtain ⟨found, known, -⟩ := findDisk_of_isClear hf credentials clear
    cases known
  have looked : Asked (·.isDetaching = false) opening :=
    (asked_findDisk hf).imp fun _ => Ask.isDetaching_of_isLooking
  rw [List.map_append, looks_append] at clear
  obtain ⟨_, known, free⟩ := findDisk_of_isClear hf credentials fun look hl =>
    clear look (List.mem_append_left _ hl)
  obtain rfl := Except.ok.inj known
  rcases detachFound_cases setting request target found with
    ⟨unmounts, -⟩ | ⟨client, disk, rfl, held, -⟩
  · rw [unmounts] at hr
    have quiet : Asked (·.isDetaching = false) rest :=
      (asked_unmountTarget hr).imp fun _ => Ask.isDetaching_of_isHost
    exact ⟨(course_unmountTarget hr).1, asked_append.mpr ⟨looked, quiet⟩⟩
  · rw [free client disk rfl] at held
    cases held

/-- After a detach that succeeded, a detach that only ever sees what that one saw last succeeds too,
and does not detach the disk. -/
theorem detach_again {world later : World σ Ledger}
    (first : ((detach setting request target).run.run (World.reply cloud bookkeeper) world).1 =
      .ok ())
    (credentials :
      ((Client.connect setting.source).run (World.reply cloud bookkeeper) later).1.isSome = true)
    (keeps : ∀ look ∈ looks (((detach setting request target).run.moments
        (World.reply cloud bookkeeper) later).map Prod.snd),
      (looks (((detach setting request target).run.moments
        (World.reply cloud bookkeeper) world).map Prod.snd)).getLast? = some look) :
    ((detach setting request target).run.run (World.reply cloud bookkeeper) later).1 = .ok () ∧
      ∀ m ∈ (detach setting request target).run.moments (World.reply cloud bookkeeper) later,
        m.2.question.isDetaching = false := by
  have before :=
    course_self (World.reply cloud bookkeeper) (detach setting request target).run world
  rw [first] at before
  obtain ⟨last, hl, clear⟩ := isClear_of_detach before.history
  refine course_detach_of_isClear (course_self _ _ later) credentials fun look hm => ?_
  have same := keeps look hm
  rw [hl] at same
  exact Option.some.inj same ▸ clear

end Books

/-! ### A disk that is detached twice -/

/-- A cloud with one disk, which is free once it is detached. -/
def oneDiskCloud : CloudModel Disk where
  metadata _ disk := (none, disk)
  accepts _ disk := (true, disk)
  describe _ _ _ disk := ((.ok (some disk), 0), disk)
  change action _ _ node disk :=
    ((.ok (), 0), match action with
      | .attach => { disk with status := .inUse, holder := node }
      | .detach => { disk with status := .available, holder := "" })

/-- A world in which the disk is in use and mounted. -/
def oneDiskWorld : World Disk Ledger :=
  World.start usedDisk (.ofTable [usedMount]) ⟨[(["t"], .dir)]⟩

/-- Detaching it. -/
def oneDiskDetach : NodeProgram (Except OperationError Unit) :=
  (detach ⟨⟨[], some (Credentials.lasting "id" "secret")⟩, .standard, ⟨.detach, "d-1", "i-1"⟩⟩
    ⟨"d-1", "i-1", "z", "r", .ext4, .available, false, false⟩ ⟨"/t"⟩).run

/-- The world after that. -/
def freedWorld : World Disk Ledger :=
  (oneDiskDetach.run (World.reply oneDiskCloud bookkeeper) oneDiskWorld).2

theorem oneDisk_detached_again :
    (oneDiskDetach.run (World.reply oneDiskCloud bookkeeper) oneDiskWorld).1 = .ok () ∧
      (oneDiskDetach.run (World.reply oneDiskCloud bookkeeper) freedWorld).1 = .ok () ∧
        ∀ m ∈ oneDiskDetach.moments (World.reply oneDiskCloud bookkeeper) freedWorld,
          m.2.question.isDetaching = false := by
  have first :
      (oneDiskDetach.run (World.reply oneDiskCloud bookkeeper) oneDiskWorld).1 = .ok () := by
    cbv
  have last : (looks ((oneDiskDetach.moments (World.reply oneDiskCloud bookkeeper)
      oneDiskWorld).map Prod.snd)).getLast? =
        some (.ok (some { usedDisk with status := .available, holder := "" })) := by
    cbv
  have seen : looks ((oneDiskDetach.moments (World.reply oneDiskCloud bookkeeper)
      freedWorld).map Prod.snd) =
        [.ok (some { usedDisk with status := .available, holder := "" })] := by
    cbv
  refine ⟨first, detach_again first (by cbv) fun look hl => ?_⟩
  rw [oneDiskDetach] at seen last
  rw [seen, List.mem_singleton] at hl
  rw [last, hl]

end BlockVolume.Operation
