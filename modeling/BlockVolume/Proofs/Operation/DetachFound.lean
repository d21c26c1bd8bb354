import BlockVolume.Proofs.Operation.DetachAgain
import BlockVolume.Proofs.Operation.Failures
/-!
A detach before and after it knows its disk.

A detach gets a client and looks for the disk, and what it does then depends on what it has found. A
disk that it does not find at first leaves nothing to detach. A disk that it has found, and that a
later look does not find any more, ends the detach with an error, whether or not it was detached in
between.
-/

namespace BlockVolume.Operation

open BlockVolume.Cloud (ApiError Client Disk)
open BlockVolume.Node (World)
open BlockVolume.Program
open BlockVolume.Rehearsal (Script bookkeeper)
open BlockVolume.Volume (Request)

variable {σ : Type} {setting : Setting} {request : Request} {target : Path} {client : Client}
  {disk : Disk} {region : String} {found : Option (Client × Disk)}
  {es : List (Exchange Ask.Answer)}

/-! ### Looks that fail -/

/-- A look-up that fails for good has looked in vain, and does not say that there is no disk. -/
theorem failed_describe? {e : OperationError}
    (h : History (describe? setting region client).run es (.error e)) :
    e.kind ∈ callKinds ∧ ∀ reply ∈ looks es, reply.toOption = none := by
  obtain ⟨before, described, after, rfl, hd, ha⟩ := history_bind.mp h
  split at ha
  case h_1 => cases (history_pure.mp ha).2
  case h_2 => cases (history_pure.mp ha).2
  case h_3 failure other =>
    obtain ⟨rfl, same⟩ := history_pure.mp ha
    obtain rfl := Except.error.inj same
    rw [List.append_nil]
    have present : e.kind ≠ .notFound := by
      intro absent
      obtain ⟨context, region, rfl⟩ := OperationError.kind_eq_notFound.mp absent
      exact other _ _ rfl
    refine ⟨List.mem_of_ne_of_mem present (failsAs_describe hd), ?_⟩
    obtain ⟨-, result, settled, same⟩ := looks_describe hd
    obtain ⟨earlier, last, split, failed, value⟩ := settled.errors
    rw [split, List.forall_mem_append, List.forall_mem_singleton]
    refine ⟨failed, ?_⟩
    match result, same with
    | .ok none, same =>
      obtain rfl := Except.error.inj same
      exact absurd rfl present
    | .error problem, _ => exact value

/-- A detach that does not get to know whether there is a disk has looked in vain. -/
theorem failed_findDisk {e : OperationError}
    (h : History (findDisk setting region).run es (.error e)) :
    e.kind ∈ .credentials :: callKinds ∧ ∀ reply ∈ looks es, reply.toOption = none := by
  rcases history_step_bind.mp h with ⟨e', hc, same⟩ | ⟨before, client, after, rfl, hc, hd⟩
  · obtain rfl := Except.error.inj same
    rw [looks_connect hc]
    exact ⟨List.mem_cons.mpr (Or.inl (List.mem_singleton.mp (failsAs_connect hc))), by simp⟩
  · obtain ⟨own, failed⟩ := failed_describe? hd
    rw [looks_append, looks_connect hc, List.nil_append]
    exact ⟨List.mem_cons_of_mem _ own, failed⟩

/-! ### Disks that vanish -/

theorem tellsAbsence_unmountTarget : TellsAbsence (unmountTarget setting target) :=
  tellsAbsence_of_blind failsAs_unmountTarget (by decide) fun _ _ h => looks_unmountTarget h

theorem tellsAbsence_mountsElsewhere {own devices : List Path} :
    TellsAbsence (mountsElsewhere setting own devices) :=
  tellsAbsence_of_blind failsAs_mountsElsewhere (by decide) fun _ _ h => looks_mountsElsewhere h

/-- Asking for the disk to be detached is no look at it. -/
theorem tellsAbsence_detaching {disk node : String} :
    TellsAbsence (setting.call (fun api => (CloudAsk.detach api disk node).ask) client) := by
  refine tellsAbsence_of_blind failsAs_call (by decide) fun es outcome h => ?_
  have other {e : Exchange Ask.Answer} (quiet : e.question.isControl = false) : look? e = none := by
    have none : looks [e] = [] := looks_eq_nil (by simpa using quiet)
    simpa [looks] using none
  let call := ControlCall.detach disk node
  have h : History (setting.call call.make client).run es outcome := h
  refine List.filterMap_eq_nil_iff.mpr fun e he => ?_
  rcases asks_of_call h e he with hk | ⟨ms, hk⟩ | ⟨api, reply, rfl⟩
  · exact other (Ask.isControl_of_isCredential hk)
  · exact other (by rw [hk]; rfl)
  · rfl

theorem tellsAbsence_unmountAndDetach :
    TellsAbsence (unmountAndDetach setting request target client) := by
  refine tellsAbsence_unmountTarget.bind fun _ => tellsAbsence_detaching.bind fun called => ?_
  exact (tellsAbsence_watch _ 1 called.1).bind fun _ => tellsAbsence_pure ()

theorem tellsAbsence_detachHeld :
    TellsAbsence (detachHeld setting request target client disk) := by
  refine tellsAbsence_lift_bind (only_query rfl) fun own => ?_
  refine tellsAbsence_mountsElsewhere.bind fun busy => ?_
  split
  case isTrue => exact tellsAbsence_unmountAndDetach
  case isFalse => exact tellsAbsence_fail (by simp [Problem.kind])

theorem tellsAbsence_detachFound :
    TellsAbsence (detachFound setting request target found) := by
  rcases detachFound_cases setting request target found with
    ⟨unmounts, -⟩ | ⟨client, disk, -, -, held⟩
  · rw [unmounts]
    exact tellsAbsence_unmountTarget
  · rw [held]
    exact tellsAbsence_detachHeld

/-- A detach fails for want of its disk exactly if it has found the disk at first and has not found it
later. -/
theorem kind_of_detach {outcome : Except OperationError Unit}
    (h : History (detach setting request target).run es outcome) :
    (∃ e, outcome = .error e ∧ e.kind = .notFound) ↔
      (∃ disk, firstFound es = some (some disk)) ∧ .ok none ∈ looks es := by
  rw [detach_eq] at h
  rcases history_step_bind.mp h with ⟨e, hf, rfl⟩ | ⟨opening, found, rest, rfl, hf, hr⟩
  · obtain ⟨own, failed⟩ := failed_findDisk hf
    have unknown : firstFound es = none := List.findSome?_eq_none_iff.mpr failed
    have other : e.kind ≠ .notFound := by
      intro absent
      rw [absent] at own
      exact absurd own (by decide)
    simp [unknown, other]
  · obtain ⟨before, split, failed⟩ := looks_findDisk hf
    have earlier : .ok none ∉ before := fun seen => Option.some_ne_none _ (failed _ seen)
    rw [firstFound_append (firstFound_findDisk hf), looks_append, split,
      tellsAbsence_detachFound hr]
    cases found with
    | none => simp [looks_unmountTarget hr]
    | some found => simp [earlier]

/-- In any surroundings, a detach fails for want of its disk exactly if it has found the disk at first
and has not found it at a later look. A disk that is not found at first is not asked to be detached,
and only the host can make such a detach fail. -/
theorem detach_notFound_iff (answer : (q : Ask) → σ → Ask.Answer q × σ) (s : σ) (setting : Setting)
    (request : Request) (target : Path) :
    let es := ((detach setting request target).run.moments answer s).map Prod.snd
    let outcome := ((detach setting request target).run.run answer s).1
    ((∃ context region, outcome = .error (.failed context (.diskNotFound region))) ↔
      (∃ disk, firstFound es = some (some disk)) ∧ .ok none ∈ looks es) ∧
    (firstFound es = some none →
      (∀ e ∈ es, e.question.isDetaching = false) ∧ ∀ e, outcome = .error e → e.kind = .hostIo) := by
  intro es outcome
  have history : History (detach setting request target).run es outcome :=
    (course_self answer _ s).history
  clear_value es outcome
  constructor
  · rw [← kind_of_detach history]
    constructor
    · rintro ⟨context, region, rfl⟩
      exact ⟨_, rfl, rfl⟩
    · rintro ⟨e, rfl, absent⟩
      obtain ⟨context, region, rfl⟩ := OperationError.kind_eq_notFound.mp absent
      exact ⟨context, region, rfl⟩
  · intro absent
    rw [detach_eq] at history
    rcases history_step_bind.mp history with ⟨e, hf, -⟩ | ⟨opening, found, rest, rfl, hf, hr⟩
    · rw [firstFound, List.findSome?_eq_none_iff.mpr (failed_findDisk hf).2] at absent
      cases absent
    · rw [firstFound_append (firstFound_findDisk hf)] at absent
      cases found with
      | some found => cases absent
      | none =>
      refine ⟨List.forall_mem_append.mpr ⟨fun e he => ?_, fun e he => ?_⟩, fun e failed => ?_⟩
      · exact Ask.isDetaching_of_isLooking (only_findDisk hf e he)
      · exact Ask.isDetaching_of_isHost (only_unmountTarget hr e he)
      · subst failed
        exact List.mem_singleton.mp (failsAs_unmountTarget hr)

/-- A disk that is gone when it was detached is not taken for detached. -/
theorem vanished_not_detached :
    let es := (oneDiskDetach.moments (World.reply Script.cloud bookkeeper)
      (usedWorld [usedMount])).map Prod.snd
    looks es = [.ok (some usedDisk), .ok none] ∧
      es.any (fun e => e.question.isDetaching) = true ∧
      (oneDiskDetach.run (World.reply Script.cloud bookkeeper) (usedWorld [usedMount])).1 =
        .error (.failed ⟨.detach, "d-1", "i-1"⟩ (.diskNotFound "r")) := by
  refine ⟨by cbv, by cbv, by cbv⟩

end BlockVolume.Operation
