import BlockVolume.Proofs.Mount.Commands
import BlockVolume.Proofs.Node.Publishing
import BlockVolume.Rehearsal.Bench
import BlockVolume.Rehearsal.Script
/-!
Publishing read-only by the host's mounter.

A read-only publication takes two commands, a bind and a remount. Where the first ends well and the
second does not, the publication fails, but the target is a mount from then on — one that can be
written to. Each later publication finds it there and is content. So whether a publication that was
done left the target read-only is told by the earlier ones.
-/

namespace BlockVolume.Node

open BlockVolume.Host (FileTree)
open BlockVolume.Mount
open BlockVolume.Program
open BlockVolume.Rehearsal (Script systemAnswer)

variable {σ : Type}

/-- The commands that were run on a host, in order, with how they ended. -/
abbrev Runs := List (Command × Ending)

/-- A host on which commands end in any way: what each next command comes to, and what the mount
table says then, is told by the commands before. -/
structure ToolHost where
  outcome : Runs → Command → ToolRun
  table : Runs → Text.Bytes

namespace ToolHost

/-- Answers a question of the mounter. -/
def answer (host : ToolHost) (question : ToolAsk) (runs : Runs) : question.Answer × Runs :=
  match question with
  | .run command =>
    let ended := host.outcome runs command
    (ended, runs ++ [(command, ended.ending)])
  | .runFor command _ =>
    let ended := host.outcome runs command
    (some ended, runs ++ [(command, ended.ending)])
  | .readTable => (.ok (host.table runs), runs)

/-- The host's mounter on such a host. -/
def mounter (host : ToolHost) (system : SystemMounter) : MounterModel Runs where
  answer question tree runs := (systemAnswer system tree question).run host.answer runs

end ToolHost

/-- The command that makes a bind mount. -/
def bindCommand (system : SystemMounter) (staging target : Path) : Command :=
  ⟨executable system.mountProgram, ["-o", "bind", staging.text, target.text]⟩

/-- The command that makes a bind mount read-only. -/
def readOnlyCommand (system : SystemMounter) (staging target : Path) : Command :=
  ⟨executable system.mountProgram, ["-o", "bind,remount,ro", staging.text, target.text]⟩

/-- The mount table of a host can be read, and shows a mount at the target if a bind ended well. -/
def ToolHost.Shows (host : ToolHost) (system : SystemMounter) (staging target : Path)
    (tree : FileTree) : Prop :=
  ∀ runs, ∃ table, parseTable (host.table runs) = .ok table ∧ ∀ times,
    (table.first? (Ledger.lookupPath (treeAfter tree target times) target)).isSome = true ↔
      (bindCommand system staging target, .exited 0) ∈ runs

/-- What a read-only publication comes to, and the world after it. -/
def publishOnce (cloud : CloudModel σ) (host : ToolHost) (system : SystemMounter)
    (staging target : Path) (world : World σ Runs) : Answer × World σ Runs :=
  world.run cloud (host.mounter system) (publish staging target true).run

/-- The world after so many read-only publications. -/
def afterPublishing (cloud : CloudModel σ) (host : ToolHost) (system : SystemMounter)
    (staging target : Path) (times : Nat) (world : World σ Runs) : World σ Runs :=
  (fun world => (publishOnce cloud host system staging target world).2)^[times] world

section

variable {host : ToolHost} {system : SystemMounter} {staging target : Path} {tree : FileTree}
  {cloud : CloudModel σ} {runs : Runs}

/-! ### One question -/

theorem run_deviceAt (system : SystemMounter) (tree : FileTree) (target : Path)
    {table : MountTable} (read : parseTable (host.table runs) = .ok table) :
    (systemAnswer system tree (.deviceAt target)).run host.answer runs =
      (.ok (table.deviceAt (Ledger.lookupPath tree target)), runs) := by
  have content : (ExceptT.run (ExceptT.mk ToolAsk.readTable.ask)).run host.answer runs =
      (.ok (host.table runs), runs) := rfl
  -- nothing changes between two reads of the table
  simp only [systemAnswer, SystemMounter.list, readTable, consistentRead, maxTableReads,
    readUntilAgreed, run_step_bind, run_step_adapt, run_step_pure, run_step_ofExcept, content,
    if_true, Except.mapError, read]

/-- A tool is run once, and ends well or is told as an error. -/
theorem run_runTool (host : ToolHost) (runs : Runs) (command : Command)
    (wrap : Host.Failure → MountError) :
    let ending := (host.outcome runs command).ending
    ∃ result, (runTool command wrap).run.run host.answer runs = (result, runs ++ [(command, ending)]) ∧
      (result = .ok () ↔ ending = .exited 0) := by
  simp only [runTool, Command.run, run_step_adapt, run_step_bind, run_step_lift, ToolAsk.ask,
    run_query, ToolHost.answer]
  generalize (host.outcome runs command).ending = ending
  cases hf : ending.failure? command with
  | none => exact ⟨.ok (), rfl, iff_of_true rfl (failure?_eq_none.mp hf)⟩
  | some failure =>
    refine ⟨.error (wrap failure), rfl, iff_of_false (by simp) fun good => ?_⟩
    rw [failure?_eq_none.mpr good] at hf
    cases hf

/-- What a read-only bind mount does to the commands that were run: it ends at the first of its two
that does not end well. -/
inductive Mounted (host : ToolHost) (bind readOnly : Command) (runs : Runs) :
    Except MountError Unit → Runs → Prop where
  | unbound {ending : Ending} (e : MountError) (bad : ending ≠ .exited 0)
      (first : (host.outcome runs bind).ending = ending) :
      Mounted host bind readOnly runs (.error e) (runs ++ [(bind, ending)])
  | writable {ending : Ending} (e : MountError) (bad : ending ≠ .exited 0)
      (first : (host.outcome runs bind).ending = .exited 0)
      (second : (host.outcome (runs ++ [(bind, .exited 0)]) readOnly).ending = ending) :
      Mounted host bind readOnly runs (.error e)
        (runs ++ [(bind, .exited 0), (readOnly, ending)])
  | done (first : (host.outcome runs bind).ending = .exited 0)
      (second : (host.outcome (runs ++ [(bind, .exited 0)]) readOnly).ending = .exited 0) :
      Mounted host bind readOnly runs (.ok ())
        (runs ++ [(bind, .exited 0), (readOnly, .exited 0)])

theorem mounted_mount (host : ToolHost) (system : SystemMounter) (staging target : Path)
    (tree : FileTree) (runs : Runs) :
    let mounted := (systemAnswer system tree (.mount (some staging) target "" ["bind", "ro"])).run
      host.answer runs
    Mounted host (bindCommand system staging target) (readOnlyCommand system staging target) runs
      mounted.1 mounted.2 := by
  intro mounted
  let bind := bindCommand system staging target
  let readOnly := readOnlyCommand system staging target
  have options : BindOptions.ofList ["bind", "ro"] =
      ⟨true, ["bind"], ["bind", "remount", "ro"]⟩ := by decide
  have first : system.mountOnce (some staging) target "" ["bind"] = runTool bind .other := rfl
  have second : system.mountOnce (some staging) target "" ["bind", "remount", "ro"] =
      runTool readOnly .other := by
    rw [SystemMounter.mountOnce, mountArguments]
    congr 3
  simp only [mounted, systemAnswer, SystemMounter.mount, options, if_true, run_step_bind, first,
    second]
  obtain ⟨result, h, good⟩ := run_runTool host runs bind .other
  rw [h]
  rcases result with e | _
  · exact .unbound e (fun ended => by cases good.mpr ended) rfl
  have ended := good.mp rfl
  rw [ended]
  dsimp only
  obtain ⟨result, h, good⟩ := run_runTool host (runs ++ [(bind, .exited 0)]) readOnly .other
  rw [h, List.append_assoc]
  rcases result with e | _
  · exact .writable e (fun ended => by cases good.mpr ended) ended rfl
  · rw [good.mp rfl]
    exact .done ended (good.mp rfl)

/-! ### One publication -/

/-- What a read-only publication, for which the target was made or could not be, does to the commands
that were run. -/
inductive Published (host : ToolHost) (bind readOnly : Command) (runs : Runs) :
    Except MountError Unit → Answer → Runs → Prop where
  | noTarget (e : MountError) :
      Published host bind readOnly runs (.error e) (.error ⟨.internal, e.message⟩) runs
  | present (bound : (bind, .exited 0) ∈ runs) :
      Published host bind readOnly runs (.ok ()) (.ok ()) runs
  | mount {result : Except MountError Unit} {after : Runs} (free : (bind, .exited 0) ∉ runs)
      (mounted : Mounted host bind readOnly runs result after) :
      Published host bind readOnly runs (.ok ()) (result.mapError (⟨.internal, ·.message⟩)) after

theorem published_publishOnce (cloud : CloudModel σ)
    (shows : host.Shows system staging target tree) {times : Nat}
    {world : World σ Runs} (same : world.tree = treeAfter tree target times) :
    let ended := publishOnce cloud host system staging target world
    ended.2.tree = treeAfter tree target (times + 1) ∧
      Published host (bindCommand system staging target) (readOnlyCommand system staging target)
        world.mounter (world.tree.createTarget target).1 ended.1 ended.2.mounter := by
  intro ended
  have run : PublishRun _ _ _ true world.tree world.mounter ended.1 ended.2.tree
    ended.2.mounter := publishRun_run cloud (host.mounter system) staging target true world
  generalize ended.1 = result at run ⊢
  generalize ended.2.tree = made at run ⊢
  generalize ended.2.mounter = runs at run ⊢
  have next {result : Except MountError Unit}
      (create : world.tree.createTarget target = (result, made)) :
      made = treeAfter tree target (times + 1) := by
    rw [treeAfter, Function.iterate_succ_apply', ← treeAfter, ← same, create]
  obtain ⟨table, read, bound⟩ := shows world.mounter
  have look : (host.mounter system).answer (.deviceAt target) made world.mounter =
      (.ok (table.deviceAt (Ledger.lookupPath made target)), world.mounter) :=
    run_deviceAt system made target read
  cases run with
  | noTarget create =>
    rw [create]
    exact ⟨next create, .noTarget _⟩
  | noTable create found =>
    rw [look] at found
    cases found
  | present create found =>
    rw [look] at found
    obtain ⟨some, rfl⟩ := Prod.mk.inj found
    rw [create]
    refine ⟨next create, .present ((bound (times + 1)).mp ?_)⟩
    rw [← next create]
    obtain ⟨point, hp, -⟩ := Option.map_eq_some_iff.mp (Except.ok.inj some)
    exact Option.isSome_iff_exists.mpr ⟨point, hp⟩
  | mount create found bind =>
    rw [look] at found
    obtain ⟨none, rfl⟩ := Prod.mk.inj found
    rw [create]
    refine ⟨next create, .mount (fun h => ?_) ?_⟩
    · have some := (bound (times + 1)).mpr h
      rw [← next create, Option.map_eq_none_iff.mp (Except.ok.inj none)] at some
      cases some
    · obtain ⟨rfl, rfl⟩ := Prod.mk.inj bind
      exact mounted_mount host system staging target made world.mounter

/-! ### Many publications -/

/-- What publications have come to so far: no bind ended well, or one did, and then the only remount
there was did not, or it did. -/
inductive Settled (bind readOnly : Command) (runs : Runs) : Prop where
  | unbound (none : ∀ ran ∈ runs, ran.1 = bind ∧ ran.2 ≠ .exited 0)
  | writable {ending : Ending} (bound : (bind, .exited 0) ∈ runs) (bad : ending ≠ .exited 0)
      (failed : (readOnly, ending) ∈ runs) (never : (readOnly, .exited 0) ∉ runs)
  | readOnly (bound : (bind, .exited 0) ∈ runs) (done : (readOnly, .exited 0) ∈ runs)
      (only : ∀ ending, (readOnly, ending) ∈ runs → ending = .exited 0)

theorem bindCommand_ne : bindCommand system staging target ≠ readOnlyCommand system staging target := by
  simp [bindCommand, readOnlyCommand]

theorem Settled.published {bind readOnly : Command} {after : Runs} {result : Answer}
    {made : Except MountError Unit} (h : Settled bind readOnly runs) (ne : bind ≠ readOnly)
    (published : Published host bind readOnly runs made result after) : Settled bind readOnly after := by
  cases published with
  | noTarget => exact h
  | present bound => exact h
  | mount free mounted =>
    cases h with
    | writable bound => exact absurd bound free
    | readOnly bound => exact absurd bound free
    | unbound none =>
      have fresh (ending : Ending) : (readOnly, ending) ∉ runs := fun h => ne (none _ h).1.symm
      cases mounted with
      | unbound e bad => exact .unbound (List.forall_mem_append.mpr ⟨none, by simpa using bad⟩)
      | writable e bad =>
        exact .writable (by simp) bad (by simp) (by simp [fresh, bad.symm, ne.symm])
      | done =>
        refine .readOnly (by simp) (by simp) fun ending h => ?_
        simpa [fresh, ne.symm] using h

/-- A publication that is done leaves a remount that ended well just if no remount before it failed. -/
theorem Settled.readOnly_iff {bind readOnly : Command} {after : Runs} {result : Answer}
    {made : Except MountError Unit} (h : Settled bind readOnly runs) (ne : bind ≠ readOnly)
    (published : Published host bind readOnly runs made result after) (ok : result = .ok ()) :
    (readOnly, .exited 0) ∈ after ↔ ∀ ending, (readOnly, ending) ∈ runs → ending = .exited 0 := by
  cases published with
  | noTarget => cases ok
  | present bound =>
    cases h with
    | unbound none => exact absurd rfl (none _ bound).2
    | writable _ bad failed never =>
      exact ⟨fun done => absurd done never, fun only => absurd (only _ failed) bad⟩
    | readOnly _ done only => exact ⟨fun _ => only, fun _ => done⟩
  | mount free mounted =>
    cases mounted with
    | unbound => cases ok
    | writable => cases ok
    | done =>
      cases h with
      | unbound none => exact ⟨fun _ ending h => absurd (none _ h).1.symm ne, fun _ => by simp⟩
      | writable bound => exact absurd bound free
      | readOnly bound => exact absurd bound free

/-- Publications leave the commands settled, and the tree with the target in it. -/
theorem settled_afterPublishing (cloud : CloudModel σ) (cloudState : σ)
    (shows : host.Shows system staging target tree) (times : Nat) :
    let world := afterPublishing cloud host system staging target times (.start cloudState [] tree)
    world.tree = treeAfter tree target times ∧
      Settled (bindCommand system staging target) (readOnlyCommand system staging target)
        world.mounter := by
  induction times with
  | zero => exact ⟨rfl, .unbound (by simp [afterPublishing, World.start])⟩
  | succ times ih =>
    dsimp only
    rw [afterPublishing, Function.iterate_succ_apply', ← afterPublishing]
    obtain ⟨same, once⟩ := published_publishOnce cloud shows ih.1
    exact ⟨same, ih.2.published bindCommand_ne once⟩

end

/-- Of read-only publications at a target that is no mount at first, through commands that end in any
way, one that is done leaves the target read-only just if no remount before it failed. -/
theorem publish_readOnly_iff (cloud : CloudModel σ) (host : ToolHost) (system : SystemMounter)
    (staging target : Path) (tree : FileTree) (shows : host.Shows system staging target tree)
    (cloudState : σ) (times : Nat) :
    let before := afterPublishing cloud host system staging target times (.start cloudState [] tree)
    let ended := publishOnce cloud host system staging target before
    let readOnly := readOnlyCommand system staging target
    ended.1 = .ok () →
      ((readOnly, .exited 0) ∈ ended.2.mounter ↔
        ∀ ending, (readOnly, ending) ∈ before.mounter → ending = .exited 0) := by
  intro before ended readOnly done
  obtain ⟨same, settled⟩ := settled_afterPublishing cloud cloudState shows times
  exact settled.readOnly_iff bindCommand_ne (published_publishOnce cloud shows same).2 done

/-! ### A remount that fails -/

/-- A mounter by the program `/bin/mount`. -/
def binMount : SystemMounter := ⟨⟨"/bin/mount"⟩⟩

/-- The bind of `/s` at `/t` by it. -/
def sampleBind : Command := bindCommand binMount ⟨"/s"⟩ ⟨"/t"⟩

/-- The remount. -/
def sampleRemount : Command := readOnlyCommand binMount ⟨"/s"⟩ ⟨"/t"⟩

/-- A host whose mount table shows a mount at `/t` once the bind has ended well. All commands end well
but the remount, which ends with a code. -/
def sampleHost (code : Nat) : ToolHost where
  outcome _ command := ⟨.exited (if command = sampleRemount then code else 0), [], []⟩
  table runs :=
    if (sampleBind, .exited 0) ∈ runs then
      renderTable [⟨⟨"/dev/vdb"⟩, ⟨"/t"⟩, "ext4", ["rw"], 0, 0⟩]
    else []

/-- A world with no mounts. -/
def sampleWorld : World Script Runs :=
  .start Script.quiet [] sampleTree

theorem sampleHost_shows (code : Nat) :
    (sampleHost code).Shows binMount ⟨"/s"⟩ ⟨"/t"⟩ sampleTree := by
  intro runs
  rw [sampleHost]
  dsimp only
  split
  case isTrue bound =>
    refine ⟨[⟨⟨"/dev/vdb"⟩, ⟨"/t"⟩, "ext4", ["rw"], 0, 0⟩], by cbv, fun times => ?_⟩
    rw [treeAfter_sampleTree]
    exact iff_of_true (by cbv) bound
  case isFalse free =>
    refine ⟨[], by cbv, fun times => ?_⟩
    rw [treeAfter_sampleTree]
    exact iff_of_false (by simp [MountTable.first?]) free

/-- What the publication of `/s` at `/t` after so many others comes to, and the commands then. -/
def samplePublished (code times : Nat) : Answer × Runs :=
  let ended := publishOnce Script.cloud (sampleHost code) binMount ⟨"/s"⟩ ⟨"/t"⟩
    (afterPublishing Script.cloud (sampleHost code) binMount ⟨"/s"⟩ ⟨"/t"⟩ times sampleWorld)
  (ended.1, ended.2.mounter)

/-- The target is there, so a publication finds it mounted, or mounts it. -/
theorem published_sample (code times : Nat) :
    Published (sampleHost code) sampleBind sampleRemount
      (afterPublishing Script.cloud (sampleHost code) binMount ⟨"/s"⟩ ⟨"/t"⟩ times
        sampleWorld).mounter (.ok ()) (samplePublished code times).1 (samplePublished code times).2 := by
  have shows := sampleHost_shows code
  have same := (settled_afterPublishing Script.cloud Script.quiet shows times).1
  have published := (published_publishOnce Script.cloud shows same).2
  rw [same, treeAfter_sampleTree] at published
  have created : (sampleTree.createTarget ⟨"/t"⟩).1 = .ok () := by cbv
  rw [created] at published
  exact published

/-- The first publication runs both commands. -/
theorem samplePublished_first (code : Nat) :
    (samplePublished code 0).2 = [(sampleBind, .exited 0), (sampleRemount, .exited code)] := by
  have published := published_sample code 0
  have start : (afterPublishing Script.cloud (sampleHost code) binMount ⟨"/s"⟩ ⟨"/t"⟩ 0
      sampleWorld).mounter = [] := rfl
  have binds (runs : Runs) : ((sampleHost code).outcome runs sampleBind).ending = .exited 0 := by
    simp [sampleHost, sampleBind, sampleRemount, bindCommand_ne]
  have remounts (runs : Runs) :
      ((sampleHost code).outcome runs sampleRemount).ending = .exited code := by
    simp [sampleHost]
  rw [start] at published
  generalize (samplePublished code 0).1 = result at published
  generalize (samplePublished code 0).2 = after at published ⊢
  cases published with
  | present bound => cases bound
  | mount free mounted =>
    cases mounted with
    | unbound e bad first => exact absurd (first.symm.trans (binds _)) bad
    | writable e bad first second =>
      rw [← remounts, second]
      rfl
    | done first second =>
      rw [← remounts, second]
      rfl

/-- The second finds the target mounted. -/
theorem samplePublished_second (code : Nat) :
    samplePublished code 1 = (.ok (), (samplePublished code 0).2) := by
  have published := published_sample code 1
  have before : (afterPublishing Script.cloud (sampleHost code) binMount ⟨"/s"⟩ ⟨"/t"⟩ 1
      sampleWorld).mounter = (samplePublished code 0).2 := rfl
  rw [before] at published
  generalize samplePublished code 1 = ended at published ⊢
  obtain ⟨result, after⟩ := ended
  dsimp only at published
  cases published with
  | present => rfl
  | mount free =>
    rw [samplePublished_first] at free
    exact absurd List.mem_cons_self free

/-- Where remounts end well, the second publication finds the target read-only. -/
theorem second_publish_readOnly : (samplePublished 0 1).1 = .ok () ∧
    (sampleRemount, .exited 0) ∈ (samplePublished 0 1).2 := by
  have done : (samplePublished 0 1).1 = .ok () := by rw [samplePublished_second]
  refine ⟨done, (publish_readOnly_iff Script.cloud (sampleHost 0) binMount ⟨"/s"⟩ ⟨"/t"⟩ sampleTree
    (sampleHost_shows 0) _ 1 done).mpr fun ending h => ?_⟩
  change (sampleRemount, ending) ∈ (samplePublished 0 0).2 at h
  rw [samplePublished_first] at h
  rcases List.mem_cons.mp h with heq | h
  · exact (Prod.mk.inj heq).2
  · exact (Prod.mk.inj (List.mem_singleton.mp h)).2

/-- Where remounts fail, the second publication is content with a mount that can be written to. -/
theorem second_publish_writable : (sampleHost 32).Shows binMount ⟨"/s"⟩ ⟨"/t"⟩ sampleTree ∧
    (samplePublished 32 1).1 = .ok () ∧ (sampleRemount, .exited 0) ∉ (samplePublished 32 1).2 := by
  rw [samplePublished_second, samplePublished_first]
  refine ⟨sampleHost_shows 32, rfl, fun h => ?_⟩
  rcases List.mem_cons.mp h with heq | h
  · exact bindCommand_ne (Prod.mk.inj heq).1.symm
  · cases (Prod.mk.inj (List.mem_singleton.mp h)).2

end BlockVolume.Node
