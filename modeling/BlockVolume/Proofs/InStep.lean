import BlockVolume.Proofs.History
import Mathlib.Data.List.Forall2
/-!
Programs in step.

Two programs are in step if they ask alike questions, one for one, as long as the answers are alike,
and end with results that belong together. Parts in step make programs in step. In surroundings that
answer alike questions alike, programs in step have runs that are alike from the first exchange to the
last.
-/

namespace BlockVolume.Program

variable {Q : Type} {Answer : Q → Type} {α α' β β' ε σ σ' : Type}

/-- Which questions count as alike, and which exchanges. -/
structure Likeness (Answer : Q → Type) where
  asks : Q → Q → Prop
  exchanges : Exchange Answer → Exchange Answer → Prop

/-- Two programs that are in step, with results that belong together by `ends`. -/
inductive InStep (like : Likeness Answer) (ends : α → α' → Prop) :
    Program Answer α → Program Answer α' → Prop where
  | done {result : α} {result' : α'} (h : ends result result') :
      InStep like ends (.done result) (.done result')
  | ask {question question' : Q} {next : Answer question → Program Answer α}
      {next' : Answer question' → Program Answer α'} (asked : like.asks question question')
      (later : ∀ reply reply', like.exchanges ⟨question, reply⟩ ⟨question', reply'⟩ →
        InStep like ends (next reply) (next' reply')) :
      InStep like ends (.ask question next) (.ask question' next')

variable {like : Likeness Answer} {ends : α → α' → Prop} {ends' : β → β' → Prop}

/-! ### Parts -/

theorem inStep_pure {result : α} {result' : α'} (h : ends result result') :
    InStep like ends (pure result : Program Answer α) (pure result') :=
  .done h

theorem InStep.bind {p : Program Answer α} {p' : Program Answer α'} {f : α → Program Answer β}
    {f' : α' → Program Answer β'} (h : InStep like ends p p')
    (later : ∀ a a', ends a a' → InStep like ends' (f a) (f' a')) :
    InStep like ends' (p >>= f) (p' >>= f') := by
  induction h with
  | done h => exact later _ _ h
  | ask asked _ ih => exact .ask asked ih

theorem InStep.imp {ends' : α → α' → Prop} {p : Program Answer α} {p' : Program Answer α'}
    (h : InStep like ends p p') (weaker : ∀ a a', ends a a' → ends' a a') :
    InStep like ends' p p' := by
  induction h with
  | done h => exact .done (weaker _ _ h)
  | ask asked _ ih => exact .ask asked ih

/-- A question with nothing left open: it is like itself, and its answers are alike only if they are
the same. -/
def Likeness.IsPlain (like : Likeness Answer) (question : Q) : Prop :=
  like.asks question question ∧
    ∀ reply reply', like.exchanges ⟨question, reply⟩ ⟨question, reply'⟩ → reply = reply'

/-- A program that asks nothing but plain questions is in step with itself. -/
theorem InStep.refl [∀ question, Nonempty (Answer question)] {p : Program Answer α}
    (plain : Only like.IsPlain p) : InStep like Eq p p := by
  induction p with
  | done result => exact .done rfl
  | ask question next ih =>
    obtain ⟨asked, same⟩ := plain.asks (.refl _)
    refine .ask asked fun reply reply' h => ?_
    obtain rfl := same reply reply' h
    exact ih reply fun es result later e he =>
      plain (.ask question next reply later) e (List.mem_cons_of_mem _ he)

/-! ### Steps that may fail -/

/-- Two outcomes that belong together: the same error, or values that do. -/
inductive Outcomes (ends : α → α' → Prop) : Except ε α → Except ε α' → Prop where
  | error (e : ε) : Outcomes ends (.error e) (.error e)
  | ok {value : α} {value' : α'} (h : ends value value') : Outcomes ends (.ok value) (.ok value')

/-- Two steps in step. -/
abbrev StepInStep (like : Likeness Answer) (ends : α → α' → Prop)
    (x : ExceptT ε (Program Answer) α) (x' : ExceptT ε (Program Answer) α') : Prop :=
  InStep like (Outcomes ends) x.run x'.run

theorem stepInStep_pure {value : α} {value' : α'} (h : ends value value') :
    StepInStep like ends (pure value : ExceptT ε (Program Answer) α) (pure value') :=
  .done (.ok h)

theorem stepInStep_throw (e : ε) :
    StepInStep like ends (throw e : ExceptT ε (Program Answer) α) (throw e) :=
  .done (.error e)

theorem InStep.lift {p : Program Answer α} {p' : Program Answer α'} (h : InStep like ends p p') :
    StepInStep like ends (liftM p : ExceptT ε (Program Answer) α) (liftM p') :=
  h.bind fun _ _ same => .done (.ok same)

theorem StepInStep.bind {x : ExceptT ε (Program Answer) α} {x' : ExceptT ε (Program Answer) α'}
    {f : α → ExceptT ε (Program Answer) β} {f' : α' → ExceptT ε (Program Answer) β'}
    (h : StepInStep like ends x x')
    (later : ∀ a a', ends a a' → StepInStep like ends' (f a) (f' a')) :
    StepInStep like ends' (x >>= f) (x' >>= f') := by
  refine InStep.bind h fun outcome outcome' same => ?_
  cases same with
  | error e => exact .done (.error e)
  | ok same => exact later _ _ same

/-- A program in a step does not fail. -/
theorem InStep.lift_bind {p : Program Answer α} {p' : Program Answer α'}
    {f : α → ExceptT ε (Program Answer) β} {f' : α' → ExceptT ε (Program Answer) β'}
    (h : InStep like ends p p')
    (later : ∀ a a', ends a a' → StepInStep like ends' (f a) (f' a')) :
    StepInStep like ends' (liftM p >>= f) (liftM p' >>= f') :=
  StepInStep.bind h.lift later

/-- Outcomes with the same error or the same value are the same. -/
theorem Outcomes.eq {x x' : Except ε α} (h : Outcomes Eq x x') : x = x' := by
  cases h with
  | error e => rfl
  | ok same => rw [same]

theorem StepInStep.refl [∀ question, Nonempty (Answer question)]
    {x : ExceptT ε (Program Answer) α} (plain : Only like.IsPlain x.run) :
    StepInStep like Eq x x := by
  refine (InStep.refl plain).imp fun outcome outcome' same => ?_
  subst same
  cases outcome with
  | error e => exact .error e
  | ok value => exact .ok rfl

/-! ### Runs -/

section Runs

variable {answer : (q : Q) → σ → Answer q × σ} {answer' : (q : Q) → σ' → Answer q × σ'}
  {together : σ → σ' → Prop} {s : σ} {s' : σ'}

/-- Surroundings that answer alike questions alike, in states that belong together, and go on in such
states. -/
def AnswerAlike (like : Likeness Answer) (together : σ → σ' → Prop)
    (answer : (q : Q) → σ → Answer q × σ) (answer' : (q : Q) → σ' → Answer q × σ') : Prop :=
  ∀ ⦃question question' s s'⦄, like.asks question question' → together s s' →
    like.exchanges ⟨question, (answer question s).1⟩ ⟨question', (answer' question' s').1⟩ ∧
      together (answer question s).2 (answer' question' s').2

/-- Runs of programs in step are alike, exchange for exchange, and end together. -/
theorem InStep.run {p : Program Answer α} {p' : Program Answer α'} (h : InStep like ends p p')
    (alike : AnswerAlike like together answer answer') (start : together s s') :
    ends (p.run answer s).1 (p'.run answer' s').1 ∧
      together (p.run answer s).2 (p'.run answer' s').2 ∧
        List.Forall₂ (fun m m' => like.exchanges m.2 m'.2) (p.moments answer s)
          (p'.moments answer' s') := by
  induction h generalizing s s' with
  | done h => exact ⟨h, start, .nil⟩
  | @ask question question' next next' asked _ ih =>
    obtain ⟨same, onward⟩ := alike asked start
    obtain ⟨ended, last, moments⟩ := ih _ _ same onward
    exact ⟨ended, last, .cons same moments⟩

/-- What alike exchanges have in common is the same for moments that are alike, one after another. -/
theorem map_eq_of_alike {γ : Type} {f : Exchange Answer → γ} {ms : List (σ × Exchange Answer)}
    {ms' : List (σ' × Exchange Answer)}
    (alike : List.Forall₂ (fun m m' => like.exchanges m.2 m'.2) ms ms')
    (common : ∀ {e e'}, like.exchanges e e' → f e = f e') :
    ms.map (f ·.2) = ms'.map (f ·.2) := by
  rw [← List.forall₂_eq_eq_eq, List.forall₂_map_left_iff, List.forall₂_map_right_iff]
  exact alike.imp fun _ _ same => common same

end Runs
end BlockVolume.Program
