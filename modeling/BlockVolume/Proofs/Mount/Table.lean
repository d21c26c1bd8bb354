import BlockVolume.Mount.Ledger
/-!
Mount tables: what a lookup shows, and what an unmount leaves.

An unmount takes one entry away, the first at the path. So what it leaves is free of some kind of
entries exactly if there were none, or only that one.
-/

namespace BlockVolume

theorem Path.same_iff {p q : Path} : p.same q = true ↔ p.components = q.components := by
  simp [same]

@[simp] theorem Path.same_refl (p : Path) : p.same p = true := by
  simp [same]

theorem Path.same_comm (p q : Path) : p.same q = q.same p :=
  Bool.beq_comm

/-- Paths that are the same are the same as the same paths. -/
theorem Path.same_congr {p q : Path} (h : p.same q = true) (r : Path) : p.same r = q.same r := by
  rw [same, same, same_iff.mp h]

namespace Mount

variable {α : Type} {p q : α → Bool}

/-- Taking the first match of `p` away leaves nothing that matches `q` just if nothing else does. -/
theorem forall_eraseP_iff {xs : List α} :
    (∀ x ∈ xs.eraseP p, q x = false) ↔
      xs.filter q = [] ∨ ∃ x, xs.filter q = [x] ∧ xs.find? p = some x := by
  induction xs with
  | nil => simp
  | cons y ys ih =>
    cases hp : p y with
    | true =>
      rw [List.eraseP_cons_of_pos hp, List.find?_cons_of_pos hp]
      cases hq : q y with
      | true => simp [hq]
      | false =>
        have other : ¬∃ x, ys.filter q = [x] ∧ some y = some x := by
          rintro ⟨x, hx, heq⟩
          obtain rfl := Option.some.inj heq
          have found : y ∈ ys.filter q := by simp [hx]
          simp [hq] at found
        rw [List.filter_cons_of_neg (by simp [hq]), or_iff_left other]
        simp
    | false =>
      have np : ¬p y = true := by simp [hp]
      rw [List.eraseP_cons_of_neg np, List.find?_cons_of_neg np, List.forall_mem_cons, ih]
      cases hq : q y with
      | true =>
        have other : ¬ys.find? p = some y := fun h => np (List.find?_some h)
        simp [hq, other]
      | false => simp [hq]

/-- Taking the first match of `p` away leaves all that matches `q` just if it is no match of `q`. -/
theorem filter_eraseP_eq_iff {xs : List α} :
    (xs.eraseP p).filter q = xs.filter q ↔ ∀ x, xs.find? p = some x → q x = false := by
  induction xs with
  | nil => simp
  | cons y ys ih =>
    cases hp : p y with
    | true =>
      rw [List.eraseP_cons_of_pos hp, List.find?_cons_of_pos hp]
      cases hq : q y with
      | true =>
        rw [List.filter_cons_of_pos hq]
        simp [hq]
      | false =>
        rw [List.filter_cons_of_neg (by simp [hq])]
        simp [hq]
    | false =>
      have np : ¬p y = true := by simp [hp]
      rw [List.eraseP_cons_of_neg np, List.find?_cons_of_neg np]
      cases hq : q y with
      | true => rw [List.filter_cons_of_pos hq, List.filter_cons_of_pos hq, List.cons_inj_right, ih]
      | false =>
        have nq : ¬q y = true := by simp [hq]
        rw [List.filter_cons_of_neg nq, List.filter_cons_of_neg nq, ih]

namespace MountTable

variable {table : MountTable} {path : Path}

theorem deviceAt_eq_none : table.deviceAt path = none ↔ table.first? path = none :=
  Option.map_eq_none_iff

/-- The number of mounts at a path is zero only where nothing is mounted. -/
theorem countAt_eq_zero : table.countAt path = 0 ↔ table.first? path = none := by
  rw [countAt, deviceAt]
  cases hf : table.first? path with
  | none => simp
  | some point =>
    have found : point ∈ table.filter fun other => other.device.same point.device :=
      List.mem_filter.mpr ⟨List.mem_of_find?_eq_some hf, Path.same_refl _⟩
    simpa using List.ne_nil_of_mem found

theorem forall_removeFirst_iff {q : MountPoint → Bool} :
    (∀ point ∈ table.removeFirst path, q point = false) ↔
      table.filter q = [] ∨ ∃ point, table.filter q = [point] ∧ table.first? path = some point :=
  forall_eraseP_iff

theorem filter_removeFirst_eq_iff {q : MountPoint → Bool} :
    (table.removeFirst path).filter q = table.filter q ↔
      ∀ point, table.first? path = some point → q point = false :=
  filter_eraseP_eq_iff

/-- Paths that are the same find the same mount. -/
theorem first?_congr {other : Path} (same : path.same other = true) :
    table.first? path = table.first? other := by
  rw [first?, first?]
  congr 1
  funext point
  rw [Path.same_comm, Path.same_congr same, Path.same_comm]

/-- A mount that was added at a path where no other is, is the one that is taken away. -/
theorem removeFirst_concat {point : MountPoint} (free : table.first? path = none)
    (own : point.path.same path = true) : removeFirst (table ++ [point]) path = table := by
  have others : ∀ other ∈ table, ¬other.path.same path = true := List.find?_eq_none.mp free
  rw [removeFirst, List.eraseP_append_right _ others]
  simp [own]

theorem first?_concat {point : MountPoint} (free : table.first? path = none)
    (own : point.path.same path = true) : first? (table ++ [point]) path = some point := by
  rw [first?] at free ⊢
  simp [List.find?_append, free, own]

/-! ### Mounts at one path -/

/-- The number of entries at a path, whatever is mounted there. -/
def mountsAt (table : MountTable) (path : Path) : Nat :=
  table.countP fun point => point.path.same path

theorem mountsAt_eq_zero : table.mountsAt path = 0 ↔ table.first? path = none := by
  simp [mountsAt, first?]

theorem mountsAt_congr {other : Path} (same : path.same other = true) :
    table.mountsAt path = table.mountsAt other := by
  refine List.countP_congr fun point _ => ?_
  rw [Path.same_comm, Path.same_congr same, Path.same_comm]

theorem mountsAt_snoc (table : MountTable) (point : MountPoint) (path : Path) :
    mountsAt (table ++ [point]) path = table.mountsAt path + if point.path.same path then 1 else 0 := by
  simp [mountsAt, List.countP_append, List.countP_singleton]

theorem mountsAt_removeFirst (table : MountTable) (path : Path) :
    (table.removeFirst path).mountsAt path = table.mountsAt path - 1 := by
  have twice : table.removeFirst path =
      table.eraseP fun point => point.path.same path && point.path.same path := by
    simp [removeFirst]
  rw [mountsAt, mountsAt, List.countP_eq_length_filter, List.countP_eq_length_filter, twice,
    ← List.eraseP_filter, List.length_eraseP]
  split
  case isTrue => rfl
  case isFalse none =>
    -- all that was kept is at the path
    have empty : table.filter (fun point => point.path.same path) = [] := by
      simpa using none
    simp [empty]

end MountTable
end Mount
end BlockVolume
