import BlockVolume.Proofs.History
import BlockVolume.Proofs.Mount.Table
import BlockVolume.Rehearsal.Bench
import BlockVolume.Rehearsal.Script
import Mathlib
/-!
What a mounter tells of one path.

Three questions are about what is mounted where: at which paths a device is, which device is at a
path, and how many mounts the device at a path has. The first goes by the device, the other two by
the link-free form of the path, and each reads the mount table anew. `Told` says how their answers
go together where the table stays the same, whether a mounter keeps it in books or reads it from the
host.
-/

namespace BlockVolume.Mount

open BlockVolume.Host (FileTree)
open BlockVolume.Program
open BlockVolume.Rehearsal (answerFromBooks systemAnswer)

variable {tree : FileTree} {table : MountTable} {path place device : Path} {point : MountPoint}

/-! ### Answers about a place -/

/-- Where a lookup at a path looks: at its link-free form, or at the path itself if it has none. -/
def LooksAt (tree : FileTree) (path place : Path) : Prop :=
  tree.canonical? path = some place ∨ tree.canonical? path = none ∧ place = path

/-- The entry is the first one of the table at the place. -/
def IsFirstAt (table : MountTable) (place : Path) (point : MountPoint) : Prop :=
  point.path.same place = true ∧ ∃ before after, table = before ++ point :: after ∧
    ∀ other ∈ before, other.path.same place = false

/-- What is told of a place in a table: by the paths of each device, by what is found at the place,
and by a count. -/
structure Told (table : MountTable) (place : Path) (refs : Path → List Path)
    (found : Option (Path × Nat)) (count : Nat) : Prop where
  /-- A device that is found is that of the first entry at the place, and has the place among its
  paths, of which there are as many as are told and counted. -/
  mounted : ∀ device n, found = some (device, n) →
    (∃ point, IsFirstAt table place point ∧ point.device = device) ∧
      (∃ path ∈ refs device, path.same place = true) ∧
        n = (refs device).length ∧ 1 ≤ n ∧ count = n
  /-- Where none is found there is no entry, no device has the place among its paths, and none is
  counted. -/
  free : found = none → (∀ point ∈ table, point.path.same place = false) ∧
    (∀ device, ∀ path ∈ refs device, path.same place = false) ∧ count = 0
  /-- A device has the same paths however it is spelt. -/
  spelt : ∀ device other, device.same other = true → refs device = refs other

/-- A mounter gives all three answers, and they are told from the one table. -/
def Agree (tree : FileTree) (table : MountTable) (path : Path)
    (answers : (question : MountAsk) → question.Answer) : Prop :=
  ∃ place refs found count, LooksAt tree path place ∧
    (∀ device, answers (.refs device) = .ok (refs device)) ∧
      answers (.deviceAt path) = .ok found ∧ answers (.countAt path) = .ok count ∧
        Told table place refs found count

/-! ### Tables -/

namespace MountTable

theorem mem_refs : path ∈ table.refs device ↔
    ∃ point ∈ table, point.device.same device = true ∧ point.path = path := by
  simp [refs, and_assoc]

theorem refs_congr {other : Path} (same : device.same other = true) :
    table.refs device = table.refs other := by
  rw [refs, refs]
  congr 2
  funext point
  rw [Path.same_comm, Path.same_congr same, Path.same_comm]

theorem first?_eq_some : table.first? place = some point ↔ IsFirstAt table place point := by
  simp [first?, List.find?_eq_some_iff_append, IsFirstAt]

theorem first?_eq_none :
    table.first? place = none ↔ ∀ point ∈ table, point.path.same place = false := by
  simp [first?]

end MountTable

theorem IsFirstAt.mem (h : IsFirstAt table place point) : point ∈ table := by
  obtain ⟨-, before, after, rfl, -⟩ := h
  simp

/-- A table tells its places. -/
theorem told_place (table : MountTable) (place : Path) :
    Told table place table.refs (table.deviceAt place) (table.countAt place) where
  mounted := by
    intro device n found
    obtain ⟨point, first, told⟩ := Option.map_eq_some_iff.mp found
    obtain ⟨rfl, rfl⟩ := Prod.mk.inj told
    have isFirst := MountTable.first?_eq_some.mp first
    have own : point.path ∈ table.refs point.device :=
      MountTable.mem_refs.mpr ⟨point, isFirst.mem, Path.same_refl _, rfl⟩
    have count : (table.filter fun other => other.device.same point.device).length =
        (table.refs point.device).length := by
      simp [MountTable.refs]
    refine ⟨⟨point, isFirst, rfl⟩, ⟨point.path, own, isFirst.1⟩, count, ?_, ?_⟩
    · rw [count]
      exact List.length_pos_of_mem own
    · rw [MountTable.countAt, found]
  free := by
    intro none
    rw [MountTable.deviceAt_eq_none] at none
    have free := MountTable.first?_eq_none.mp none
    refine ⟨free, ?_, MountTable.countAt_eq_zero.mpr none⟩
    intro device path own
    obtain ⟨point, listed, -, rfl⟩ := MountTable.mem_refs.mp own
    exact free point listed
  spelt := fun _ _ => MountTable.refs_congr

theorem looksAt_lookupPath (tree : FileTree) (path : Path) :
    LooksAt tree path (Ledger.lookupPath tree path) := by
  rw [LooksAt, Ledger.lookupPath]
  cases tree.canonical? path <;> simp

/-! ### Mounters -/

/-- Answers that are told from one table agree. -/
theorem agree_of_table {answers : (question : MountAsk) → question.Answer}
    (refs : ∀ device, answers (.refs device) = .ok (table.refs device))
    (found : answers (.deviceAt path) = .ok (table.deviceAt (Ledger.lookupPath tree path)))
    (count : answers (.countAt path) = .ok (table.countAt (Ledger.lookupPath tree path))) :
    Agree tree table path answers :=
  ⟨_, _, _, _, looksAt_lookupPath tree path, refs, found, count, told_place table _⟩

/-- The three questions agree about every path: answered from books, and answered on a host in any
surroundings in which the mount table is listed. -/
theorem lookups_agree {σ : Type} (tree : FileTree) (path : Path) :
    (∀ ledger : Ledger, Agree tree ledger.table path fun question =>
      (answerFromBooks question tree ledger).1) ∧
    ∀ (system : SystemMounter) (answer : (question : ToolAsk) → σ → question.Answer × σ) (s : σ)
      (table : MountTable), (SystemMounter.list.run.run answer s).1 = .ok table →
        Agree tree table path fun question =>
          ((systemAnswer system tree question).run answer s).1 := by
  constructor
  · intro ledger
    exact agree_of_table (fun device => rfl) rfl rfl
  · intro system answer s table listed
    obtain ⟨after, whole⟩ : ∃ after, SystemMounter.list.run.run answer s = (.ok table, after) :=
      ⟨_, Prod.ext listed rfl⟩
    apply agree_of_table
    · intro device
      simp only [systemAnswer, run_step_bind, whole, run_step_pure]
    · simp only [systemAnswer, run_step_bind, whole, run_step_pure]
    · simp only [systemAnswer, run_step_bind, whole, run_step_pure]

/-- A host where one device is mounted twice, spelt in two ways, and a link leads to one of them. -/
def linkedTree : FileTree := ⟨[(["a"], .dir), (["b"], .dir), (["l"], .link "/b")]⟩

/-- The kernel's mount table there. -/
def linkedTable : MountTable :=
  [⟨⟨"/dev//vdb"⟩, ⟨"/a"⟩, "ext4", ["rw"], 0, 0⟩, ⟨⟨"/dev/vdb"⟩, ⟨"/b/"⟩, "ext4", ["ro"], 0, 0⟩]

/-- Answers with the table, and with success to all else. -/
def answerLinked (question : ToolAsk) (_ : Unit) : question.Answer × Unit :=
  match question with
  | .run _ => (⟨.exited 0, [], []⟩, ())
  | .runFor _ _ => (some ⟨.exited 0, [], []⟩, ())
  | .readTable => (.ok (renderTable linkedTable), ())

/-- What the host's mounter tells there. -/
def tellLinked (question : MountAsk) : question.Answer :=
  ((systemAnswer ⟨⟨"mount"⟩⟩ linkedTree question).run answerLinked ()).1

theorem lookups_agree_linked :
    (SystemMounter.list.run.run answerLinked ()).1 = .ok linkedTable ∧
      Agree linkedTree linkedTable ⟨"/l"⟩ tellLinked ∧
        tellLinked (.deviceAt ⟨"/l"⟩) = .ok (some (⟨"/dev/vdb"⟩, 2)) := by
  have listed : (SystemMounter.list.run.run answerLinked ()).1 = .ok linkedTable := by cbv
  have agree := (lookups_agree linkedTree ⟨"/l"⟩).2 ⟨⟨"mount"⟩⟩ answerLinked () linkedTable listed
  exact ⟨listed, agree, by cbv⟩

end BlockVolume.Mount
