import BlockVolume.Proofs.Node.Dispatch
import BlockVolume.Proofs.Node.Serialization
/-!
Host jobs are run in the order in which their calls held the lock.

A call that is given up gives its lock back, and its job may still be in the queue when the next call
has the lock. But a call hands jobs in while it has its lock, and no more once it is over (`Over`), and
the queue keeps the order — so a call that held the lock before another one also has its jobs run before
those of the other.
-/

namespace BlockVolume.Node

open BlockVolume.Lock (Table)
open BlockVolume.Program
open BlockVolume.Rehearsal (Script)

variable {σ μ ι α : Type} {program : ι → NodeProgram α} {cloud : CloudModel σ}
  {mounter : MounterModel μ}

namespace Dispatch

variable {dispatch next : Dispatch σ μ ι α} {number first second : Nat} {key : LockKey}

/-! ### Locks that calls have, and had -/

/-- A call holds a lock. -/
def Holds (dispatch : Dispatch σ μ ι α) (number : Nat) (key : LockKey) : Prop :=
  dispatch.host.world.locks.grip number = some (key, true)

/-- A call asked for a lock, and if it has one, it holds it. -/
structure Had (dispatch : Dispatch σ μ ι α) (number : Nat) (key : LockKey) : Prop where
  asked : (number, key) ∈ dispatch.host.acquires
  grip : ∀ found, dispatch.host.world.locks.grip number = some found → found = (key, true)

/-- A call asked for a lock, and has none any more. -/
structure Over (dispatch : Dispatch σ μ ι α) (number : Nat) (key : LockKey) : Prop where
  asked : (number, key) ∈ dispatch.host.acquires
  grip : dispatch.host.world.locks.grip number = none

theorem Sound.had (h : Sound program cloud mounter dispatch) (holds : dispatch.Holds number key) :
    dispatch.Had number key where
  asked := by
    obtain ⟨claim, hc, rfl, rfl, -⟩ := (Table.grip_eq_some h.guarded.formed).mp holds
    exact h.guarded.turns.subset (List.mem_map_of_mem hc)
  grip found hg := Option.some.inj (hg.symm.trans holds)

/-- A call that asked for its lock asks for no other. -/
theorem Sound.eased (h : Sound program cloud mounter dispatch)
    (locking : ∀ order, Locking (program order))
    (moved : Step program cloud mounter dispatch next)
    (asked : (number, key) ∈ dispatch.host.acquires) :
    Traffic.Eased dispatch.host next.host number ∧ (number, key) ∈ next.host.acquires := by
  have loosened (loosens : Traffic.Loosens dispatch.host next.host) :
      Traffic.Eased dispatch.host next.host number ∧ (number, key) ∈ next.host.acquires :=
    ⟨loosens.eased number, loosens.asked ▸ asked⟩
  cases moved with
  | idle host =>
    rw [host]
    exact ⟨fun _ held hg => ⟨held, hg, id⟩, asked⟩
  | call moved =>
    rcases Traffic.locks_step h.guarded moved with ⟨other, claimed, acquires⟩ | loosens
    · have ne : number ≠ other := by
        rintro rfl
        obtain ⟨order, rest, here⟩ := acquires.here
        have lock := ((locking order).once (h.tracked.along number _ here) _
          (Traffic.mem_acquires.mp asked)).1
        cases lock
      refine ⟨acquires.eased ne, ?_⟩
      rw [acquires.asked]
      exact List.mem_append_left _ asked
    · exact loosened loosens
  | handIn _ _ _ host =>
    refine loosened ?_
    rw [host]
    exact Traffic.loosens_polled _ _
  | @work job front host =>
    obtain ⟨question, rest, result, -⟩ := h.answers front host
    have answered := Traffic.answered_answerMounter cloud mounter job.caller rest dispatch.host
    rw [← result] at answered
    exact loosened (.of_locks answered.locks answered.acquires)

theorem Had.step (had : dispatch.Had number key) (h : Sound program cloud mounter dispatch)
    (locking : ∀ order, Locking (program order))
    (moved : Step program cloud mounter dispatch next) : next.Had number key := by
  obtain ⟨eased, asked⟩ := h.eased locking moved had.asked
  refine ⟨asked, fun found hg => ?_⟩
  obtain ⟨before, hb, grown⟩ := eased _ _ hg
  obtain ⟨rfl, rfl⟩ := Prod.mk.inj (had.grip _ hb)
  exact Prod.ext rfl (grown rfl)

theorem Over.step (done : dispatch.Over number key) (h : Sound program cloud mounter dispatch)
    (locking : ∀ order, Locking (program order))
    (moved : Step program cloud mounter dispatch next) : next.Over number key := by
  obtain ⟨eased, asked⟩ := h.eased locking moved done.asked
  refine ⟨asked, Option.eq_none_iff_forall_ne_some.mpr fun found hg => ?_⟩
  obtain ⟨before, hb, -⟩ := eased _ _ hg
  rw [done.grip] at hb
  cases hb

/-- A job is handed in by a call that has a lock, if any. -/
theorem Sound.handedIn_step (h : Sound program cloud mounter dispatch)
    (locking : ∀ order, Locking (program order))
    (moved : Step program cloud mounter dispatch next) :
    next.handedIn = dispatch.handedIn ∨
      ∃ number, next.handedIn = dispatch.handedIn ++ [number] ∧
        dispatch.host.world.locks.grip number ≠ none := by
  cases moved with
  | idle host waiting ran => exact Or.inl (handedIn_of_quiet waiting ran)
  | call moved direct waiting ran => exact Or.inl (handedIn_of_quiet waiting ran)
  | @handIn number order question rest here fresh free host waiting ran =>
    refine Or.inr ⟨number, handedIn_of_handIn waiting ran, fun none => ?_⟩
    obtain ⟨key, claim, -⟩ := h.claims locking here
    rw [← h.guarded.grips, none] at claim
    cases claim
  | work front host ran => exact Or.inl (handedIn_of_work front ran)

/-- Once a call is over, it hands nothing in. -/
theorem precedes_foldl (h : Sound program cloud mounter dispatch)
    (locking : ∀ order, Locking (program order)) (done : dispatch.Over first key)
    (order : Precedes dispatch.handedIn first second) (moves : List (DispatchMove ι)) :
    Precedes (moves.foldl (step program cloud mounter) dispatch).handedIn first second := by
  refine (foldl_induction (P := fun dispatch => Sound program cloud mounter dispatch ∧
    dispatch.Over first key ∧ Precedes dispatch.handedIn first second) ⟨h, done, order⟩
    (fun dispatch next kept moved => ?_) moves).2.2
  obtain ⟨h, done, order⟩ := kept
  refine ⟨h.step locking moved, done.step h locking moved, ?_⟩
  rcases h.handedIn_step locking moved with same | ⟨number, more, locked⟩
  · rw [same]
    exact order
  · rw [more]
    refine order.snoc ?_
    rintro rfl
    exact locked done.grip

theorem had_foldl (h : Sound program cloud mounter dispatch)
    (locking : ∀ order, Locking (program order)) (had : dispatch.Had number key)
    (moves : List (DispatchMove ι)) :
    (moves.foldl (step program cloud mounter) dispatch).Had number key :=
  (foldl_induction (P := fun dispatch => Sound program cloud mounter dispatch ∧
    dispatch.Had number key) ⟨h, had⟩
    (fun _ _ kept moved => ⟨kept.1.step locking moved, kept.2.step kept.1 locking moved⟩) moves).2

/-- Where another call holds the lock, the one that had it is over, and handed in what it did before
the other one. -/
theorem Sound.through (h : Sound program cloud mounter dispatch) (had : dispatch.Had first key)
    (holds : dispatch.Holds second key) (ne : first ≠ second) :
    dispatch.Over first key ∧ Precedes dispatch.handedIn first second := by
  refine ⟨⟨had.asked, Option.eq_none_iff_forall_ne_some.mpr fun found hg => ?_⟩,
    h.ordered.last holds ne.symm had.asked⟩
  obtain rfl := had.grip found hg
  exact ne (h.guarded.formed.grip_inj hg holds)

/-! ### The queue is worked off -/

/-- The worker runs what is in the queue. -/
def workOff (program : ι → NodeProgram α) (cloud : CloudModel σ) (mounter : MounterModel μ)
    (dispatch : Dispatch σ μ ι α) : Dispatch σ μ ι α :=
  (List.replicate dispatch.waiting.length .work).foldl (step program cloud mounter) dispatch

/-- Then all jobs that were handed in were run, in that order. -/
theorem ran_workOff (program : ι → NodeProgram α) (cloud : CloudModel σ) (mounter : MounterModel μ)
    (dispatch : Dispatch σ μ ι α) :
    (dispatch.workOff program cloud mounter).ran = dispatch.handedIn := by
  rw [workOff]
  generalize hn : dispatch.waiting.length = n
  induction n generalizing dispatch with
  | zero =>
    rw [handedIn, List.length_eq_zero_iff.mp hn]
    exact (List.append_nil _).symm
  | succ n ih =>
    obtain ⟨job, rest, front⟩ := List.exists_cons_of_length_eq_add_one hn
    obtain ⟨-, waiting, ran⟩ := step_work_of_front program cloud mounter front
    rw [List.replicate_succ, List.foldl_cons, ih]
    · exact handedIn_of_work (waiting.symm ▸ front) ran
    · rw [waiting]
      simpa [front] using hn

end Dispatch

/-! ### Calls that stage and unstage volumes -/

namespace Service

theorem locking (service : Service) (call : VolumeCall) :
    Dispatch.Locking (service.program call) where
  toDisciplined := service.disciplined call
  once {es key next} h := by
    have phase := phase_of_reaches h
    generalize hl : Program.ask (Ask.acquire key) next = left at phase
    intro e he
    cases phase with
    | reading way =>
      obtain ⟨resource, hq⟩ := (only_parse service call).reaches way e he
      rw [hq]
      exact ⟨rfl, rfl⟩
    | inside read way =>
      rcases bind_eq_ask hl.symm with ⟨first, rfl⟩ | ⟨outcome, rfl, hg⟩
      · cases unlocked_execute.asks way
      · cases hg
    | returned read way => cases hl
  job h := asks_inside h rfl fun _ same => by cases same

end Service

namespace Dispatch

/-- Of two calls that held one lock, the one that held it first has its jobs handed in and run before
those of the other — also where it was given up with a job in the queue. -/
theorem jobs_follow_locks (service : Service) (cloud : CloudModel σ) (mounter : MounterModel μ)
    (cloudState : σ) (mounterState : μ) (tree : Host.FileTree)
    (moves between later : List (DispatchMove VolumeCall)) {first second : Nat} {key : LockKey}
    (ne : first ≠ second)
    (before : (run service.program cloud mounter moves
      (.start cloudState mounterState tree)).Holds first key)
    (after : (run service.program cloud mounter (moves ++ between)
      (.start cloudState mounterState tree)).Holds second key) :
    let dispatch := run service.program cloud mounter (moves ++ between ++ later)
      (.start cloudState mounterState tree)
    Precedes dispatch.handedIn first second ∧
      (dispatch.workOff service.program cloud mounter).ran = dispatch.handedIn := by
  have sound := sound_run service.locking cloud mounter moves cloudState mounterState tree
  have had := had_foldl sound service.locking (sound.had before) between
  have sound' := sound.foldl service.locking between
  rw [← run_append] at had sound'
  obtain ⟨done, order⟩ := sound'.through had after ne
  intro dispatch
  refine ⟨?_, ran_workOff ..⟩
  rw [show dispatch = _ from run_append ..]
  exact precedes_foldl sound' service.locking done order later

/-! ### A call that is given up with a job in the queue -/

/-- Unstaging a volume of which the cloud knows nothing: all that there is to do is to look for the
mount. -/
def unknownUnstaging : VolumeCall :=
  ⟨.detach, "d", ⟨"/s"⟩, [("nodeId", "n"), ("zoneId", "z"), ("regionId", "r")]⟩

/-- Calls on a node with credentials. -/
def unstagings (moves : List (DispatchMove VolumeCall)) : Dispatch Script Unit VolumeCall Answer :=
  run (Service.program ⟨"r", ⟨[], some (.lasting "i" "s")⟩, ⟨4, 100, 1000⟩⟩) Script.cloud refusing
    moves (.start Script.quiet () ⟨[]⟩)

/-- Two calls for one disk, of which the first hands its job in. -/
def firstHandsIn : List (DispatchMove VolumeCall) :=
  [.call (.begin unknownUnstaging), .call (.begin unknownUnstaging), .call (.goOn 0), .call (.goOn 1),
    .call (.goOn 0), .call (.goOn 0), .call (.goOn 0)]

/-- Then it is given up, and the other call hands in its own. -/
def secondHandsIn : List (DispatchMove VolumeCall) :=
  [.call (.giveUp 0), .call (.goOn 1), .call (.goOn 1), .call (.goOn 1)]

theorem unstagings_in_turn :
    let dispatch := unstagings (firstHandsIn ++ secondHandsIn ++ [.work])
    dispatch.ran = [0] ∧ dispatch.handedIn = [0, 1] ∧ Precedes dispatch.handedIn 0 1 := by
  have before : (unstagings firstHandsIn).Holds 0 ⟨"n", "d"⟩ := by
    unfold Holds
    decide +kernel
  have after : (unstagings (firstHandsIn ++ secondHandsIn)).Holds 1 ⟨"n", "d"⟩ := by
    unfold Holds
    decide +kernel
  exact ⟨by decide +kernel, by decide +kernel,
    (jobs_follow_locks _ Script.cloud refusing Script.quiet () ⟨[]⟩ firstHandsIn secondHandsIn
      [.work] (by decide) before after).1⟩

end Dispatch
end BlockVolume.Node
