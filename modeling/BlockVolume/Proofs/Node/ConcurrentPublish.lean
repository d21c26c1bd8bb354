import BlockVolume.Proofs.Mount.Table
import BlockVolume.Proofs.Node.Publishing
import BlockVolume.Proofs.Node.Traffic
import BlockVolume.Rehearsal.Script
import Mathlib.Data.List.TakeWhile
/-!
Publications at one target that are under way at the same time.

A publication looks the target up and then mounts there, and takes no lock in between. So each one
that looks before anything is mounted comes to mount, and there are as many mounts at the target as
there were such lookups. `Counted` is what each move keeps of the books; that each publication on its own
mounts as often as it found nothing is told by its history.
-/

namespace BlockVolume.Node

open BlockVolume.Host (FileTree)
open BlockVolume.Mount
open BlockVolume.Program
open BlockVolume.Rehearsal (Script bookkeeper)

variable {σ : Type}

/-- What a publication at some target is ordered with. -/
structure Publication where
  staging : Path
  readOnly : Bool

/-- How it is done. -/
def Publication.program (target : Path) (order : Publication) : NodeProgram Answer :=
  (publish order.staging target order.readOnly).run

/-- Lookups of a target look at the target itself, however often it was made. -/
def Straight (tree : FileTree) (target : Path) : Prop :=
  ∀ times, (Ledger.lookupPath (treeAfter tree target times) target).same target = true

/-! ### Kinds of exchanges -/

/-- A mount was asked for. -/
def isMount (e : Exchange Ask.Answer) : Bool := e.question.isMounting

/-- A path was looked up. -/
def isLookup (e : Exchange Ask.Answer) : Bool :=
  match e.question with
  | .mounter (.deviceAt _) => true
  | _ => false

/-- A path was looked up, and nothing was mounted there. -/
def findsNothing : Exchange Ask.Answer → Bool
  | ⟨.mounter (.deviceAt _), .ok none⟩ => true
  | _ => false

/-- Of exchanges, the number of lookups before the first mount. -/
def earlyLookups (es : List (Exchange Ask.Answer)) : Nat :=
  (es.takeWhile fun e => !isMount e).countP isLookup

variable {es : List (Exchange Ask.Answer)} {e : Exchange Ask.Answer}

theorem isLookup_of_isMount (h : isMount e = true) : isLookup e = false := by
  rw [isLookup]
  split
  case h_1 target he => simp [isMount, he, Ask.isMounting] at h
  case h_2 => rfl

theorem earlyLookups_of_free (free : es.countP isMount = 0) : earlyLookups es = es.countP isLookup := by
  rw [earlyLookups, List.takeWhile_eq_self_iff.mpr (by simpa using free)]

/-- A lookup is early as long as nothing was mounted. -/
theorem earlyLookups_snoc (es : List (Exchange Ask.Answer)) (e : Exchange Ask.Answer) :
    earlyLookups (es ++ [e]) = earlyLookups es + if es.countP isMount = 0 ∧ isLookup e then 1 else 0 := by
  by_cases free : es.countP isMount = 0
  · have none : ∀ e ∈ es, (!isMount e) = true := by simpa using free
    rw [earlyLookups_of_free free, earlyLookups, List.takeWhile_append_of_pos none, List.countP_append]
    cases hm : isMount e with
    | true => simp [hm, isLookup_of_isMount hm]
    | false => simp [hm, free, List.countP_singleton]
  · have shorter : (es.takeWhile fun e => !isMount e).length ≠ es.length := by
      intro same
      have whole := (List.takeWhile_prefix _).eq_of_length same
      exact free (by simpa using List.takeWhile_eq_self_iff.mp whole)
    rw [earlyLookups, List.takeWhile_append, if_neg shorter, earlyLookups]
    simp [free]

theorem findsNothing_deviceAt (table : MountTable) (path target : Path) :
    findsNothing ⟨.mounter (.deviceAt target), .ok (table.deviceAt path)⟩ = true ↔
      table.mountsAt path = 0 := by
  rw [MountTable.mountsAt_eq_zero, ← MountTable.deviceAt_eq_none]
  cases table.deviceAt path <;> simp [findsNothing]

/-! ### What a move does -/

/-- What a move of publications does to the tree, the mount table and the exchanges: it leaves them, or
one of the three questions is asked. -/
inductive Moved (target : Path) (tree : FileTree) (table : MountTable)
    (es : List (Exchange Ask.Answer)) :
    FileTree → MountTable → List (Exchange Ask.Answer) → Prop where
  | quiet : Moved target tree table es tree table es
  | create (reply : Except MountError Unit) :
      Moved target tree table es (tree.createTarget target).2 table
        (es ++ [⟨.tree (.createTarget target), reply⟩])
  | look :
      Moved target tree table es tree table
        (es ++ [⟨.mounter (.deviceAt target),
          .ok (table.deviceAt (Ledger.lookupPath tree target))⟩])
  | mount (device staging : Path) (options : List String) (reply : Except MountError Unit) :
      Moved target tree table es tree (table ++ [⟨device, target, "", options, 0, 0⟩])
        (es ++ [⟨.mounter (.mount (some staging) target "" options), reply⟩])

theorem moved_of_step {cloud : CloudModel σ} {target : Path}
    {traffic next : Traffic σ Ledger Publication Answer}
    (tracked : Traffic.Tracked (Publication.program target) traffic)
    (moved : Traffic.Step (Publication.program target) cloud bookkeeper traffic next) :
    Moved target traffic.world.tree traffic.world.mounter.table traffic.exchanges
      next.world.tree next.world.mounter.table next.exchanges := by
  cases moved with
  | @ask number order question rest reply wait world here free answered =>
    have asked : PublishAsk order.staging target order.readOnly question :=
      only_publish.asks (tracked.along number _ here)
    have replied := congrArg (fun answer => answer.1) answered
    have after := congrArg (fun answer => answer.2.2) answered
    dsimp only at replied after
    rw [Traffic.exchanges_snoc]
    cases asked with
    | create =>
      rw [← after]
      exact .create reply
    | look =>
      rw [← after, ← replied]
      exact .look
    | mount =>
      rw [← after]
      exact .mount _ _ _ reply
  | _ => exact .quiet

/-- After some moves, the tree has the target made some times, there are as many mounts at it as were
asked for, and the lookups that found nothing are those before the first mount. -/
structure Counted (start : FileTree) (target : Path) (tree : FileTree) (table : MountTable)
    (es : List (Exchange Ask.Answer)) : Prop where
  made : ∃ times, tree = treeAfter start target times
  mounted : table.mountsAt target = es.countP isMount
  early : Straight start target → es.countP findsNothing = earlyLookups es

variable {start tree tree' : FileTree} {target : Path} {table table' : MountTable}
  {es' : List (Exchange Ask.Answer)}

theorem Counted.moved (h : Counted start target tree table es)
    (moved : Moved target tree table es tree' table' es') :
    Counted start target tree' table' es' := by
  obtain ⟨times, made⟩ := h.made
  cases moved with
  | quiet => exact h
  | create reply =>
    refine ⟨⟨times + 1, ?_⟩, ?_, fun straight => ?_⟩
    · rw [treeAfter, Function.iterate_succ_apply', ← treeAfter, ← made]
    · simpa [isMount, Ask.isMounting, List.countP_append, List.countP_singleton] using h.mounted
    · rw [List.countP_append, h.early straight, earlyLookups_snoc]
      simp [isLookup, findsNothing]
  | look =>
    refine ⟨⟨times, made⟩, ?_, fun straight => ?_⟩
    · simpa [isMount, Ask.isMounting, List.countP_append, List.countP_singleton] using h.mounted
    · -- the lookup is at the target, where there are as many mounts as were asked for
      have there : table.mountsAt (Ledger.lookupPath tree target) = es.countP isMount := by
        rw [made, MountTable.mountsAt_congr (straight times), h.mounted]
      rw [List.countP_append, h.early straight, earlyLookups_snoc, List.countP_singleton]
      simp only [findsNothing_deviceAt, there, isLookup, and_true]
  | mount device staging options reply =>
    refine ⟨⟨times, made⟩, ?_, fun straight => ?_⟩
    · rw [MountTable.mountsAt_snoc, h.mounted, List.countP_append]
      simp [isMount, Ask.isMounting]
    · rw [List.countP_append, h.early straight, earlyLookups_snoc]
      simp [isLookup, findsNothing]

theorem counted_start (free : table.first? target = none) : Counted tree target tree table [] :=
  ⟨⟨0, rfl⟩, MountTable.mountsAt_eq_zero.mpr free, fun _ => rfl⟩

/-! ### What publications come to -/

/-- A publication that is done mounted as often as it found nothing, which is once at most, and it did
look. -/
theorem counts_publish_done {staging : Path} {readOnly : Bool}
    (h : History (publish staging target readOnly).run es (.ok ())) :
    es.countP isMount = es.countP findsNothing ∧ es.countP findsNothing ≤ 1 ∧
      0 < es.countP isLookup := by
  rcases history_publish_done h with ⟨found, rfl⟩ | rfl
  · exact ⟨rfl, Nat.zero_le 1, Nat.zero_lt_one⟩
  · exact ⟨rfl, Nat.le_refl 1, Nat.zero_lt_one⟩

/-- What is unpublished by the books is done, and takes a mount away where the lookup finds one. -/
theorem run_unpublish (cloud : CloudModel σ) (world : World σ Ledger) (target : Path) :
    let ended := world.run cloud bookkeeper (unpublish target).run
    ended.1 = .ok () ∧ ended.2.host =
      (match world.mounter.table.deviceAt (Ledger.lookupPath world.tree target) with
        | none => world.mounter
        | some _ => world.mounter.unmount target, world.tree) := by
  intro ended
  have looked : World.reply cloud bookkeeper (.mounter (.deviceAt target)) world =
      (.ok (world.mounter.table.deviceAt (Ledger.lookupPath world.tree target)),
        world.record (.mounter (.deviceAt target))) := rfl
  simp only [ended, World.run, unpublish, run_step_bind, run_step_lift, MountAsk.ask, run_query,
    looked, internal]
  cases world.mounter.table.deviceAt (Ledger.lookupPath world.tree target) with
  | none => exact ⟨rfl, rfl⟩
  | some found => exact ⟨rfl, rfl⟩

theorem unpublish_straight (cloud : CloudModel σ) (world : World σ Ledger)
    (here : (Ledger.lookupPath world.tree target).same target = true) :
    let ended := world.run cloud bookkeeper (unpublish target).run
    ended.1 = .ok () ∧ ended.2.mounter.table.mountsAt target =
      world.mounter.table.mountsAt target - 1 := by
  intro ended
  obtain ⟨done, left⟩ := run_unpublish cloud world target
  refine ⟨done, ?_⟩
  rw [show ended.2.mounter = _ from congrArg Prod.fst left]
  cases found : world.mounter.table.deviceAt (Ledger.lookupPath world.tree target) with
  | none =>
    have none : world.mounter.table.mountsAt target = 0 := by
      rw [← MountTable.mountsAt_congr here, MountTable.mountsAt_eq_zero]
      exact MountTable.deviceAt_eq_none.mp found
    dsimp only
    omega
  | some found => exact MountTable.mountsAt_removeFirst _ _

namespace Traffic

/-- All publications have ended, and none of them with an error. -/
def allDone (traffic : Traffic σ Ledger Publication Answer) : Bool :=
  traffic.calls.all fun call =>
    match call.progress with
    | .ended (.ok _) => true
    | _ => false

theorem counted_run (cloud : CloudModel σ) (cloudState : σ) (formats : List (Path × String))
    (moves : List (Move Publication)) (free : table.first? target = none) :
    let after := run (Publication.program target) cloud bookkeeper moves
      (.start cloudState ⟨table, formats, []⟩ tree)
    Counted tree target after.world.tree after.world.mounter.table after.exchanges := by
  intro after
  have kept : Tracked (Publication.program target) after ∧
      Counted tree target after.world.tree after.world.mounter.table after.exchanges :=
    run_induction
      (P := fun traffic => Tracked (Publication.program target) traffic ∧
        Counted tree target traffic.world.tree traffic.world.mounter.table traffic.exchanges)
      ⟨tracked_run _ cloud bookkeeper [] _, counted_start free⟩
      (fun _ _ h moved => ⟨h.1.step moved, h.2.moved (moved_of_step h.1 moved)⟩) moves
  exact kept.2

/-- The exchanges of a call that is done are those of a publication that is. -/
theorem history_past {traffic : Traffic σ Ledger Publication Answer} {number : Nat}
    (tracked : Tracked (Publication.program target) traffic) (done : traffic.allDone = true)
    (old : number < traffic.calls.length) :
    ∃ order : Publication,
      History (publish order.staging target order.readOnly).run (traffic.past number) (.ok ()) := by
  have along := tracked.along number _ (List.getElem?_eq_getElem old)
  have own := List.all_eq_true.mp done _ (List.getElem_mem old)
  rw [Call.Along] at along
  split at own
  case h_1 value ended =>
    rw [ended] at along
    exact ⟨_, along⟩
  case h_2 => cases own

/-- Once all are done, each publication mounted as often as it found nothing. -/
theorem counts_past {traffic : Traffic σ Ledger Publication Answer}
    (tracked : Tracked (Publication.program target) traffic) (done : traffic.allDone = true)
    (number : Nat) :
    (traffic.past number).countP isMount = (traffic.past number).countP findsNothing ∧
      (traffic.past number).countP findsNothing ≤ 1 := by
  by_cases old : number < traffic.calls.length
  · obtain ⟨order, along⟩ := history_past tracked done old
    obtain ⟨same, once, -⟩ := counts_publish_done along
    exact ⟨same, once⟩
  · rw [tracked.past_eq_nil (by omega)]
    exact ⟨rfl, Nat.zero_le 1⟩

/-- Once all are done, and there are any, there was a lookup. -/
theorem lookups_pos {traffic : Traffic σ Ledger Publication Answer}
    (tracked : Tracked (Publication.program target) traffic) (done : traffic.allDone = true)
    (some : traffic.calls ≠ []) : 0 < traffic.exchanges.countP isLookup := by
  obtain ⟨order, along⟩ := history_past tracked done (List.length_pos_iff.mpr some)
  obtain ⟨-, -, looked⟩ := counts_publish_done along
  obtain ⟨e, he, hl⟩ := List.countP_pos_iff.mp looked
  exact List.countP_pos_iff.mpr ⟨e, mem_exchanges.mpr ⟨0, he⟩, hl⟩

/-- Of publications at one target under way at the same time, in whatever order they go on: where all
are done, there are as many mounts at the target as publications that found none. Where lookups look
at the target itself these are the lookups before the first mount, one at least, and an unpublication
takes one mount away. -/
theorem publishes_counted (cloud : CloudModel σ) (cloudState : σ) (table : MountTable)
    (formats : List (Path × String)) (tree : FileTree) (target : Path)
    (moves : List (Move Publication)) (free : table.first? target = none) :
    let after := run (Publication.program target) cloud bookkeeper moves
      (.start cloudState ⟨table, formats, []⟩ tree)
    let entries := after.world.mounter.table.mountsAt target
    let ended := after.world.run cloud bookkeeper (unpublish target).run
    after.allDone = true →
      entries = (after.callers findsNothing).length ∧ entries ≤ after.calls.length ∧
      (Straight tree target →
        entries = earlyLookups after.exchanges ∧ (after.calls ≠ [] → 0 < entries) ∧
        ended.1 = .ok () ∧ ended.2.mounter.table.mountsAt target = entries - 1) := by
  intro after entries ended done
  have tracked : Tracked (Publication.program target) after := tracked_run _ _ _ _ _
  have counted : Counted tree target after.world.tree after.world.mounter.table after.exchanges :=
    counted_run cloud cloudState formats moves free
  have found : entries = (after.callers findsNothing).length := by
    rw [length_callers, ← length_callers, ← (perm_callers fun number =>
      (counts_past tracked done number).1).length_eq, length_callers]
    exact counted.mounted
  have most : entries ≤ after.calls.length := by
    rw [found]
    exact tracked.length_callers_le fun number => (counts_past tracked done number).2
  refine ⟨found, most, fun straight => ?_⟩
  have early : entries = earlyLookups after.exchanges := by
    rw [found, length_callers, counted.early straight]
  refine ⟨early, fun some => ?_, ?_⟩
  · by_contra none
    have zero : entries = 0 := by omega
    -- had nothing been mounted, all lookups would be early
    have looked := lookups_pos tracked done some
    rw [← earlyLookups_of_free (counted.mounted.symm.trans zero), ← early] at looked
    omega
  · obtain ⟨times, made⟩ := counted.made
    exact unpublish_straight cloud after.world (made ▸ straight times)

end Traffic

/-! ### Two publications -/

/-- The order to publish `/s`. -/
def sampleOrder : Publication := ⟨⟨"/s"⟩, false⟩

/-- Publications of `/s` at a target, when nothing is mounted at first. -/
def samplePublications (tree : FileTree) (target : Path) (moves : List (Move Publication)) :
    Traffic Script Ledger Publication Answer :=
  .run (Publication.program target) Script.cloud bookkeeper moves
    (.start Script.quiet ⟨[], [], []⟩ tree)

/-- The number of mounts at the target then. -/
def sampleMounts (tree : FileTree) (target : Path) (moves : List (Move Publication)) : Nat :=
  (samplePublications tree target moves).world.mounter.table.mountsAt target

/-- The number of mounts that an unpublication leaves there. -/
def sampleLeft (tree : FileTree) (target : Path) (moves : List (Move Publication)) : Nat :=
  ((samplePublications tree target moves).world.run Script.cloud bookkeeper
    (unpublish target).run).2.mounter.table.mountsAt target

/-- Two publications, the second begun when the first was done. -/
def inTurn : List (Move Publication) :=
  [.begin sampleOrder, .goOn 0, .goOn 0, .goOn 0, .goOn 0,
    .begin sampleOrder, .goOn 1, .goOn 1, .goOn 1, .goOn 1]

/-- Two publications that both look before either mounts. -/
def overlapping : List (Move Publication) :=
  [.begin sampleOrder, .begin sampleOrder, .goOn 0, .goOn 0, .goOn 1, .goOn 1, .goOn 0, .goOn 1,
    .goOn 0, .goOn 1]

theorem straight_sampleTree : Straight sampleTree ⟨"/t"⟩ := by
  intro times
  rw [treeAfter_sampleTree]
  cbv

/-- Of two publications one after the other the second finds the mount of the first. -/
theorem publishes_inTurn : sampleMounts sampleTree ⟨"/t"⟩ inTurn = 1 ∧
    sampleLeft sampleTree ⟨"/t"⟩ inTurn = 0 := by
  have done : (samplePublications sampleTree ⟨"/t"⟩ inTurn).allDone = true := by cbv
  obtain ⟨-, -, counted⟩ := Traffic.publishes_counted Script.cloud Script.quiet [] [] sampleTree
    ⟨"/t"⟩ inTurn rfl done
  obtain ⟨early, -, -, left⟩ := counted straight_sampleTree
  have one : earlyLookups (samplePublications sampleTree ⟨"/t"⟩ inTurn).exchanges = 1 := by cbv
  have mounts : sampleMounts sampleTree ⟨"/t"⟩ inTurn = 1 := early.trans one
  refine ⟨mounts, left.trans ?_⟩
  change sampleMounts sampleTree ⟨"/t"⟩ inTurn - 1 = 0
  rw [mounts]

/-- A tree with a directory `/d`, and a link `/l` to it. -/
def linkedTree : FileTree := ⟨[(["d"], .dir), (["l"], .link "/d")]⟩

/-- Two that overlap both mount, and an unpublication leaves one of the mounts. Behind a link the second
mounts even in its turn, and an unpublication finds neither. -/
theorem publishes_twice :
    (Straight sampleTree ⟨"/t"⟩ ∧
      (samplePublications sampleTree ⟨"/t"⟩ overlapping).allDone = true ∧
      sampleMounts sampleTree ⟨"/t"⟩ overlapping = 2 ∧
      sampleLeft sampleTree ⟨"/t"⟩ overlapping = 1) ∧
    (samplePublications linkedTree ⟨"/l/t"⟩ inTurn).allDone = true ∧
      sampleMounts linkedTree ⟨"/l/t"⟩ inTurn = 2 ∧
      sampleLeft linkedTree ⟨"/l/t"⟩ inTurn = 2 :=
  ⟨⟨straight_sampleTree, by cbv, by cbv, by cbv⟩, by cbv, by cbv, by cbv⟩

end BlockVolume.Node
