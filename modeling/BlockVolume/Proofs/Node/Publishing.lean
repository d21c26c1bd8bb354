import BlockVolume.Node.Service
import BlockVolume.Proofs.Node.Frame
import Mathlib
/-!
What a publication asks, and what it can come to.

A publication makes the target, looks it up, and mounts there what is staged if nothing is. These are
three questions: between them anything can happen to the mounts.
-/

namespace BlockVolume.Node

open BlockVolume.Host (FileTree)
open BlockVolume.Mount (MountError)
open BlockVolume.Program

variable {σ : Type} {staging target : Path} {readOnly : Bool}

/-- The mount options of a publication. -/
def publishOptions (readOnly : Bool) : List String := if readOnly then ["bind", "ro"] else ["bind"]

/-- The file tree after the target was made so many times. -/
def treeAfter (tree : FileTree) (target : Path) (times : Nat) : FileTree :=
  (fun tree => (tree.createTarget target).2)^[times] tree

/-- A tree with a directory `/t`. -/
def sampleTree : FileTree := ⟨[(["t"], .dir)]⟩

theorem treeAfter_sampleTree (times : Nat) : treeAfter sampleTree ⟨"/t"⟩ times = sampleTree :=
  Function.iterate_fixed (by cbv) times

/-! ### What it asks -/

/-- The questions of a publication. -/
inductive PublishAsk (staging target : Path) (readOnly : Bool) : Ask → Prop where
  | create : PublishAsk staging target readOnly (.tree (.createTarget target))
  | look : PublishAsk staging target readOnly (.mounter (.deviceAt target))
  | mount :
      PublishAsk staging target readOnly
        (.mounter (.mount (some staging) target "" (publishOptions readOnly)))

theorem only_internal {α : Type} {kind : Ask → Prop} {reply : Except MountError α} :
    Only kind (internal reply).run := by
  cases reply <;> exact only_pure _

theorem only_publish :
    Only (PublishAsk staging target readOnly) (publish staging target readOnly).run := by
  refine Only.step_bind (Only.lift (only_query .create)) fun created => ?_
  refine Only.step_bind only_internal fun _ => ?_
  refine Only.step_bind (Only.lift (only_query .look)) fun looked => ?_
  refine Only.step_bind only_internal fun mounted => ?_
  cases mounted with
  | some mounted => exact only_pure _
  | none => exact Only.step_bind (Only.lift (only_query .mount)) fun _ => only_internal

theorem history_internal {α : Type} {reply : Except MountError α} {value : α}
    {es : List (Exchange Ask.Answer)} (h : History (internal reply).run es (.ok value)) :
    es = [] ∧ reply = .ok value := by
  cases reply with
  | error e => cases (history_pure.mp h).2
  | ok given =>
    obtain ⟨rfl, heq⟩ := history_pure.mp h
    obtain rfl := Except.ok.inj heq
    exact ⟨rfl, rfl⟩

/-- A publication that is done found the target mounted, or found nothing there and mounted. -/
theorem history_publish_done {es : List (Exchange Ask.Answer)}
    (h : History (publish staging target readOnly).run es (.ok ())) :
    (∃ found, es =
      [⟨.tree (.createTarget target), .ok ()⟩, ⟨.mounter (.deviceAt target), .ok (some found)⟩]) ∨
    es =
      [⟨.tree (.createTarget target), .ok ()⟩, ⟨.mounter (.deviceAt target), .ok none⟩,
        ⟨.mounter (.mount (some staging) target "" (publishOptions readOnly)), .ok ()⟩] := by
  obtain ⟨_, created, _, rfl, hq, h⟩ := history_step_lift_bind.mp h
  rw [history_query.mp hq]
  rcases history_step_bind.mp h with ⟨_, -, ⟨⟩⟩ | ⟨_, _, _, rfl, hc, h⟩
  obtain ⟨rfl, rfl⟩ := history_internal hc
  obtain ⟨_, looked, _, rfl, hq, h⟩ := history_step_lift_bind.mp h
  rw [history_query.mp hq]
  rcases history_step_bind.mp h with ⟨_, -, ⟨⟩⟩ | ⟨_, mounted, _, rfl, hl, h⟩
  obtain ⟨rfl, rfl⟩ := history_internal hl
  cases mounted with
  | some found =>
    obtain ⟨rfl, -⟩ := history_pure.mp h
    exact Or.inl ⟨found, rfl⟩
  | none =>
    obtain ⟨_, bound, _, rfl, hq, h⟩ := history_step_lift_bind.mp h
    rw [history_query.mp hq]
    obtain ⟨rfl, rfl⟩ := history_internal h
    exact Or.inr rfl

/-! ### What it comes to -/

/-- The ways a publication can go, with what it comes to, and the host after it. -/
inductive PublishRun {μ : Type} (mounter : MounterModel μ) (staging target : Path)
    (readOnly : Bool) (tree : FileTree) (state : μ) : Answer → FileTree → μ → Prop where
  | noTarget {e : MountError} {made : FileTree}
      (create : tree.createTarget target = (.error e, made)) :
      PublishRun mounter staging target readOnly tree state (.error ⟨.internal, e.message⟩) made state
  | noTable {e : MountError} {made : FileTree} {looked : μ}
      (create : tree.createTarget target = (.ok (), made))
      (look : mounter.answer (.deviceAt target) made state = (.error e, looked)) :
      PublishRun mounter staging target readOnly tree state (.error ⟨.internal, e.message⟩) made looked
  | present {found : Path × Nat} {made : FileTree} {looked : μ}
      (create : tree.createTarget target = (.ok (), made))
      (look : mounter.answer (.deviceAt target) made state = (.ok (some found), looked)) :
      PublishRun mounter staging target readOnly tree state (.ok ()) made looked
  | mount {result : Except MountError Unit} {made : FileTree} {looked mounted : μ}
      (create : tree.createTarget target = (.ok (), made))
      (look : mounter.answer (.deviceAt target) made state = (.ok none, looked))
      (bind : mounter.answer (.mount (some staging) target "" (publishOptions readOnly)) made looked =
        (result, mounted)) :
      PublishRun mounter staging target readOnly tree state
        (result.mapError (⟨.internal, ·.message⟩)) made mounted

theorem publishRun_run {μ : Type} (cloud : CloudModel σ) (mounter : MounterModel μ)
    (staging target : Path) (readOnly : Bool) (world : World σ μ) :
    let ended := world.run cloud mounter (publish staging target readOnly).run
    PublishRun mounter staging target readOnly world.tree world.mounter ended.1 ended.2.tree
      ended.2.mounter := by
  intro ended
  have course := course_self (World.reply cloud mounter) (publish staging target readOnly).run world
  change Course _ _ _ _ ended.1 ended.2 at course
  obtain ⟨_, created, w₁, _, -, hq, course⟩ := course_step_lift_bind.mp course
  have hq := (World.reply_createTarget ..).symm.trans (course_query.mp hq).2
  obtain ⟨create, rfl⟩ := Prod.mk.inj hq
  cases created with
  | error e =>
    obtain ⟨-, hr, hw⟩ := course_pure.mp course
    rw [hr, hw]
    exact .noTarget (Prod.ext create rfl)
  | ok _ =>
    obtain ⟨_, looked, w₂, _, -, hq, course⟩ := course_step_lift_bind.mp course
    have hq := (World.reply_mounter ..).symm.trans (course_query.mp hq).2
    obtain ⟨look, rfl⟩ := Prod.mk.inj hq
    have create : world.tree.createTarget target = (.ok (), _) := Prod.ext create rfl
    rcases looked with e | _ | found
    · obtain ⟨-, hr, hw⟩ := course_pure.mp course
      rw [hr, hw]
      exact .noTable create (Prod.ext look rfl)
    · obtain ⟨_, mounted, w₃, _, -, hq, course⟩ := course_step_lift_bind.mp course
      have hq := (World.reply_mounter ..).symm.trans (course_query.mp hq).2
      obtain ⟨bind, rfl⟩ := Prod.mk.inj hq
      cases mounted with
      | error e =>
        obtain ⟨-, hr, hw⟩ := course_pure.mp course
        rw [hr, hw]
        exact .mount create (Prod.ext look rfl) (Prod.ext bind rfl)
      | ok _ =>
        obtain ⟨-, hr, hw⟩ := course_pure.mp course
        rw [hr, hw]
        exact .mount create (Prod.ext look rfl) (Prod.ext bind rfl)
    · obtain ⟨-, hr, hw⟩ := course_pure.mp course
      rw [hr, hw]
      exact .present create (Prod.ext look rfl)

end BlockVolume.Node
