import BlockVolume.Proofs.History
/-!
How often a program asks questions of one kind.

The bound of a program made of two parts is the sum of the bounds of its parts. A run in any
surroundings is a history, so it keeps to the bound, and it comes to an end.
-/

namespace BlockVolume.Program

variable {Q : Type} {Answer : Q → Type} {α β ε σ : Type} {kind : Q → Bool} {m n : Nat}

/-- A program asks at most `n` questions of one kind, whatever it is answered. -/
def AtMost (kind : Q → Bool) (n : Nat) (p : Program Answer α) : Prop :=
  ∀ ⦃es result⦄, History p es result → es.countP (fun e => kind e.question) ≤ n

theorem AtMost.mono {p : Program Answer α} (h : AtMost kind m p) (le : m ≤ n) : AtMost kind n p :=
  fun _ _ hp => Nat.le_trans (h hp) le

/-- A narrower kind is asked for no more often. -/
theorem AtMost.imp {narrow : Q → Bool} {p : Program Answer α} (h : AtMost kind n p)
    (imp : ∀ question, narrow question → kind question) : AtMost narrow n p := by
  intro es result hp
  exact Nat.le_trans (List.countP_mono_left fun e _ => imp e.question) (h hp)

/-- What is never asked for is asked for no times. -/
theorem Only.atMost {p : Program Answer α} {other : Q → Prop} (h : Only other p)
    (none : ∀ question, other question → kind question = false) : AtMost kind 0 p := by
  intro es result hp
  refine Nat.le_of_eq (List.countP_eq_zero.mpr fun e he => ?_)
  simp [none _ (h hp e he)]

theorem atMost_pure (value : α) : AtMost kind n (pure value : Program Answer α) := by
  intro es result h
  simp [(history_pure.mp h).1]

/-- One question is one of any kind, or none. -/
theorem atMost_query (question : Q) : AtMost kind 1 (query question : Program Answer _) := by
  intro es result h
  rw [history_query.mp h, List.countP_singleton]
  split <;> omega

theorem AtMost.bind {p : Program Answer α} {f : α → Program Answer β} (hp : AtMost kind m p)
    (hf : ∀ value, AtMost kind n (f value)) : AtMost kind (m + n) (p >>= f) := by
  intro es result h
  obtain ⟨before, value, after, rfl, hb, ha⟩ := history_bind.mp h
  rw [List.countP_append]
  exact Nat.add_le_add (hp hb) (hf value ha)

/-- A first part that asks no such question does not count. -/
theorem AtMost.bind_of_none {p : Program Answer α} {f : α → Program Answer β}
    (hp : AtMost kind 0 p) (hf : ∀ value, AtMost kind n (f value)) : AtMost kind n (p >>= f) :=
  (hp.bind hf).mono (Nat.le_of_eq (Nat.zero_add n))

theorem AtMost.lift {p : Program Answer α} (hp : AtMost kind n p) :
    AtMost kind n (ExceptT.run (liftM p : ExceptT ε (Program Answer) α)) := by
  intro es result h
  obtain ⟨value, hv, -⟩ := history_step_lift.mp h
  exact hp hv

/-- A step that fails in its first part asks nothing in its second. -/
theorem AtMost.step_bind {x : ExceptT ε (Program Answer) α} {f : α → ExceptT ε (Program Answer) β}
    (hx : AtMost kind m x.run) (hf : ∀ value, AtMost kind n (f value).run) :
    AtMost kind (m + n) (ExceptT.run (x >>= f)) := by
  intro es result h
  rcases history_step_bind.mp h with ⟨_, h, -⟩ | ⟨before, value, after, rfl, hb, ha⟩
  · exact Nat.le_trans (hx h) (Nat.le_add_right m n)
  · rw [List.countP_append]
    exact Nat.add_le_add (hx hb) (hf value ha)

theorem AtMost.step_bind_of_none {x : ExceptT ε (Program Answer) α}
    {f : α → ExceptT ε (Program Answer) β} (hx : AtMost kind 0 x.run)
    (hf : ∀ value, AtMost kind n (f value).run) : AtMost kind n (ExceptT.run (x >>= f)) :=
  (hx.step_bind hf).mono (Nat.le_of_eq (Nat.zero_add n))

/-- The questions of one kind among some moments. -/
def timesAsked (kind : Q → Bool) (ms : List (σ × Exchange Answer)) : Nat :=
  ms.countP fun m => kind m.2.question

theorem AtMost.timesAsked_le {answer : (q : Q) → σ → Answer q × σ} {p : Program Answer α}
    {s s' : σ} {ms : List (σ × Exchange Answer)} {result : α} (h : AtMost kind n p)
    (course : Course answer p s ms result s') : timesAsked kind ms ≤ n := by
  have count := h course.history
  rwa [List.countP_map] at count

/-- In any surroundings a program comes to its end, within all its bounds. -/
theorem AtMost.exists_course {p : Program Answer α} {other : Q → Bool}
    (answer : (q : Q) → σ → Answer q × σ) (s : σ) (h : AtMost kind m p) (ho : AtMost other n p) :
    ∃ ms result s', Course answer p s ms result s' ∧ timesAsked kind ms ≤ m ∧
      timesAsked other ms ≤ n := by
  have course := course_self answer p s
  exact ⟨_, _, _, course, h.timesAsked_le course, ho.timesAsked_le course⟩

end BlockVolume.Program
