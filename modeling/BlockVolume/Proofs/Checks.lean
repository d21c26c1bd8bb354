import Mathlib.Data.List.Forall2
/-!
Checks in a row: what it takes for each to succeed.
-/

namespace BlockVolume

variable {ε α β : Type} {x : Except ε α} {b : β}

/-- The result of a check that succeeds. -/
theorem ok_eq_ok {a a' : α} : (.ok a : Except ε α) = .ok a' ↔ a' = a :=
  ⟨fun h => (Except.ok.inj h).symm, congrArg Except.ok ∘ Eq.symm⟩

/-- A check of two parts succeeds where both do. -/
theorem bind_eq_ok {f : α → Except ε β} : x >>= f = .ok b ↔ ∃ a, x = .ok a ∧ f a = .ok b := by
  cases x with
  | error e => simp [Bind.bind, Except.bind]
  | ok a => simp [Bind.bind, Except.bind]

theorem map_eq_ok {f : α → β} : x.map f = .ok b ↔ ∃ a, x = .ok a ∧ f a = b := by
  cases x with
  | error e => simp [Except.map]
  | ok a => simp [Except.map]

theorem exists_error_iff : (∃ e, x = .error e) ↔ ¬∃ a, x = .ok a := by
  cases x with
  | error e => simp
  | ok a => simp

/-- A check of every item succeeds where each one does. -/
theorem mapM_eq_ok {f : α → Except ε β} {xs : List α} {ys : List β} :
    xs.mapM f = .ok ys ↔ List.Forall₂ (fun x y => f x = .ok y) xs ys := by
  induction xs generalizing ys with
  | nil =>
    rw [List.mapM_nil, List.forall₂_nil_left_iff]
    exact ok_eq_ok
  | cons x xs ih =>
    simp only [List.mapM_cons, bind_eq_ok, ih, pure, Except.pure, ok_eq_ok,
      List.forall₂_cons_left_iff, exists_and_left]

/-- Where each item is related to something, all of them are related to a list. -/
theorem exists_forall₂_iff {R : α → β → Prop} {xs : List α} :
    (∃ ys, List.Forall₂ R xs ys) ↔ ∀ x ∈ xs, ∃ y, R x y := by
  induction xs with
  | nil => simp
  | cons x xs ih =>
    rw [List.forall_mem_cons, ← ih]
    constructor
    · rintro ⟨ys, h⟩
      obtain ⟨y, others, first, later, -⟩ := List.forall₂_cons_left_iff.mp h
      exact ⟨⟨y, first⟩, others, later⟩
    · rintro ⟨⟨y, first⟩, others, later⟩
      exact ⟨y :: others, .cons first later⟩

end BlockVolume
