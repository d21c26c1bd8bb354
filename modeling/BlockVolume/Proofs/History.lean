import BlockVolume.Program
/-!
Histories and courses of programs.

A program made of two parts has the histories of its first part, each continued by a history of the
second — and a step that may fail breaks off where its first part fails. `Course` is the same for
runs in given surroundings: it keeps the state in which each question was asked. Each course is a
history, so what holds of all histories holds in all surroundings.
-/

namespace BlockVolume.Program

variable {Q : Type} {Answer : Q → Type} {α β ε σ : Type}

/-! ### Programs of several parts -/

theorem bind_assoc {γ : Type} (p : Program Answer α) (f : α → Program Answer β)
    (g : β → Program Answer γ) : p >>= f >>= g = p >>= fun value => f value >>= g := by
  change (p.bind f).bind g = p.bind fun value => (f value).bind g
  induction p with
  | done value => rfl
  | ask question next ih =>
    rw [Program.bind, Program.bind, Program.bind]
    exact congrArg _ (funext ih)

/-- Steps that may fail go on with what goes on after a step. -/
theorem step_bind_assoc {γ : Type} (x : ExceptT ε (Program Answer) α)
    (f : α → ExceptT ε (Program Answer) β) (g : β → ExceptT ε (Program Answer) γ) :
    x >>= f >>= g = x >>= fun value => f value >>= g := by
  refine (bind_assoc x.run (ExceptT.bindCont f) (ExceptT.bindCont g)).trans ?_
  refine congrArg (x.run >>= ·) (funext fun reply => ?_)
  cases reply <;> rfl

/-- A step that goes on after a program goes on as the program does. -/
theorem step_lift_bind (p : Program Answer α) (f : α → ExceptT ε (Program Answer) β) :
    ExceptT.run (liftM p >>= f) = p >>= fun value => (f value).run :=
  bind_assoc p (fun value => (pure (.ok value) : Program Answer (Except ε α))) (ExceptT.bindCont f)

/-- A program of two parts that asks is in its first part, or done with it and in its second. -/
theorem bind_eq_ask {p : Program Answer α} {f : α → Program Answer β} {question : Q}
    {next : Answer question → Program Answer β} (h : p >>= f = .ask question next) :
    (∃ first, p = .ask question first) ∨ ∃ value, p = .done value ∧ f value = .ask question next := by
  cases p with
  | done value => exact Or.inr ⟨value, rfl, h⟩
  | ask other first =>
    change Program.ask other (fun reply => (first reply).bind f) = _ at h
    cases h
    exact Or.inl ⟨first, rfl⟩

/-! ### Histories -/

theorem history_pure {value result : α} {es : List (Exchange Answer)} :
    History (pure value) es result ↔ es = [] ∧ result = value := by
  constructor
  · rintro ⟨⟩
    exact ⟨rfl, rfl⟩
  · rintro ⟨rfl, rfl⟩
    exact .done _

theorem history_query {question : Q} {result : Answer question} {es : List (Exchange Answer)} :
    History (query question) es result ↔ es = [⟨question, result⟩] := by
  constructor
  · rintro (_ | ⟨_, _, _, _ | _⟩)
    rfl
  · rintro rfl
    exact .ask _ _ _ (.done _)

/-- The histories of two parts are those of the first, each continued by one of the second. -/
theorem history_bind {p : Program Answer α} {f : α → Program Answer β} {result : β}
    {es : List (Exchange Answer)} :
    History (p >>= f) es result ↔
      ∃ before value after, es = before ++ after ∧ History p before value ∧
        History (f value) after result := by
  change History (p.bind f) es result ↔ _
  induction p generalizing es with
  | done value =>
    constructor
    · exact fun h => ⟨[], value, es, rfl, .done value, h⟩
    · rintro ⟨_, _, after, rfl, ⟨⟩, h⟩
      exact h
  | ask question next ih =>
    constructor
    · rintro (_ | ⟨_, _, reply, h⟩)
      obtain ⟨before, value, after, rfl, hp, hf⟩ := (ih reply).mp h
      exact ⟨_, value, after, rfl, .ask question next reply hp, hf⟩
    · rintro ⟨_, value, after, rfl, _ | ⟨_, _, reply, hp⟩, hf⟩
      exact .ask question _ reply ((ih reply).mpr ⟨_, value, after, rfl, hp, hf⟩)

/-- Each program has a history, if there is an answer to every question. -/
theorem exists_history [∀ question, Nonempty (Answer question)] (p : Program Answer α) :
    ∃ es result, History p es result := by
  induction p with
  | done result => exact ⟨[], result, .done result⟩
  | ask question next ih =>
    obtain ⟨reply⟩ := ‹∀ question, Nonempty (Answer question)› question
    obtain ⟨es, result, h⟩ := ih reply
    exact ⟨_, result, .ask question next reply h⟩

/-! ### Histories of steps that may fail -/

theorem history_step_pure {value : α} {result : Except ε α} {es : List (Exchange Answer)} :
    History (ExceptT.run (pure value : ExceptT ε (Program Answer) α)) es result ↔
      es = [] ∧ result = .ok value :=
  history_pure

theorem history_step_throw {e : ε} {result : Except ε α} {es : List (Exchange Answer)} :
    History (ExceptT.run (throw e : ExceptT ε (Program Answer) α)) es result ↔
      es = [] ∧ result = .error e :=
  history_pure

theorem history_step_lift {p : Program Answer α} {result : Except ε α}
    {es : List (Exchange Answer)} :
    History (ExceptT.run (liftM p : ExceptT ε (Program Answer) α)) es result ↔
      ∃ value, History p es value ∧ result = .ok value := by
  change History (p >>= fun value => pure (.ok value)) es result ↔ _
  rw [history_bind]
  constructor
  · rintro ⟨before, value, _, rfl, hp, hf⟩
    obtain ⟨rfl, rfl⟩ := history_pure.mp hf
    exact ⟨value, by simpa using hp, rfl⟩
  · rintro ⟨value, hp, rfl⟩
    exact ⟨es, value, [], by simp, hp, history_pure.mpr ⟨rfl, rfl⟩⟩

/-- A step of two parts ends with the first one's error, or goes on with its value. -/
theorem history_step_bind {x : ExceptT ε (Program Answer) α}
    {f : α → ExceptT ε (Program Answer) β} {result : Except ε β} {es : List (Exchange Answer)} :
    History (ExceptT.run (x >>= f)) es result ↔
      (∃ e, History x.run es (.error e) ∧ result = .error e) ∨
        ∃ before value after, es = before ++ after ∧ History x.run before (.ok value) ∧
          History (f value).run after result := by
  change History (x.run >>= ExceptT.bindCont f) es result ↔ _
  rw [history_bind]
  constructor
  · rintro ⟨before, value, after, rfl, hx, hf⟩
    cases value with
    | error e =>
      obtain ⟨rfl, rfl⟩ := history_pure.mp hf
      exact Or.inl ⟨e, by simpa using hx, rfl⟩
    | ok value => exact Or.inr ⟨before, value, after, rfl, hx, hf⟩
  · rintro (⟨e, hx, rfl⟩ | ⟨before, value, after, rfl, hx, hf⟩)
    · exact ⟨es, .error e, [], by simp, hx, history_pure.mpr ⟨rfl, rfl⟩⟩
    · exact ⟨before, .ok value, after, rfl, hx, hf⟩

/-- A step whose error is told in other words. -/
theorem history_step_adapt {ε' : Type} (f : ε → ε') {x : ExceptT ε (Program Answer) α}
    {result : Except ε' α} {es : List (Exchange Answer)} :
    History (ExceptT.run (ExceptT.adapt f x)) es result ↔
      ∃ before, History x.run es before ∧ result = before.mapError f := by
  change History (x.run >>= fun before => pure (before.mapError f)) es result ↔ _
  rw [history_bind]
  constructor
  · rintro ⟨_, before, _, rfl, hx, hf⟩
    obtain ⟨rfl, rfl⟩ := history_pure.mp hf
    exact ⟨before, by simpa using hx, rfl⟩
  · rintro ⟨before, hx, rfl⟩
    exact ⟨es, before, [], by simp, hx, history_pure.mpr ⟨rfl, rfl⟩⟩

/-- A program in a step does not fail. -/
theorem history_step_lift_bind {p : Program Answer α} {f : α → ExceptT ε (Program Answer) β}
    {result : Except ε β} {es : List (Exchange Answer)} :
    History (ExceptT.run (liftM p >>= f)) es result ↔
      ∃ before value after, es = before ++ after ∧ History p before value ∧
        History (f value).run after result := by
  rw [step_lift_bind, history_bind]

/-! ### Kinds of questions -/

/-- A program asks nothing but questions of one kind. -/
def Only (kind : Q → Prop) (p : Program Answer α) : Prop :=
  ∀ ⦃es result⦄, History p es result → ∀ e ∈ es, kind e.question

variable {kind : Q → Prop}

theorem only_pure (value : α) : Only kind (pure value : Program Answer α) := by
  intro es result h
  simp [(history_pure.mp h).1]

theorem only_query {question : Q} (hk : kind question) :
    Only kind (query question : Program Answer _) := by
  intro es result h
  simpa [history_query.mp h] using hk

theorem Only.bind {p : Program Answer α} {f : α → Program Answer β} (hp : Only kind p)
    (hf : ∀ value, Only kind (f value)) : Only kind (p >>= f) := by
  intro es result h e he
  obtain ⟨before, value, after, rfl, hb, ha⟩ := history_bind.mp h
  rcases List.mem_append.mp he with he | he
  · exact hp hb e he
  · exact hf value ha e he

theorem Only.lift {p : Program Answer α} (hp : Only kind p) :
    Only kind (ExceptT.run (liftM p : ExceptT ε (Program Answer) α)) := by
  intro es result h
  obtain ⟨value, hv, -⟩ := history_step_lift.mp h
  exact hp hv

theorem Only.step_bind {x : ExceptT ε (Program Answer) α} {f : α → ExceptT ε (Program Answer) β}
    (hx : Only kind x.run) (hf : ∀ value, Only kind (f value).run) :
    Only kind (ExceptT.run (x >>= f)) := by
  intro es result h e he
  rcases history_step_bind.mp h with ⟨_, h, -⟩ | ⟨before, value, after, rfl, hb, ha⟩
  · exact hx h e he
  · rcases List.mem_append.mp he with he | he
    · exact hx hb e he
    · exact hf value ha e he

/-! ### Runs that are not over -/

/-- Along some exchanges a program comes to the program that is left of it. -/
inductive Reaches : Program Answer α → List (Exchange Answer) → Program Answer α → Prop where
  | refl (p : Program Answer α) : Reaches p [] p
  | ask (question : Q) (next : Answer question → Program Answer α) (reply : Answer question)
      {rest : List (Exchange Answer)} {left : Program Answer α} :
      Reaches (next reply) rest left →
        Reaches (.ask question next) (⟨question, reply⟩ :: rest) left

variable {es fs : List (Exchange Answer)}

theorem Reaches.trans {p q r : Program Answer α} (h : Reaches p es q) (h' : Reaches q fs r) :
    Reaches p (es ++ fs) r := by
  induction h with
  | refl => exact h'
  | ask question next reply _ ih => exact .ask question next reply (ih h')

/-- One more exchange. -/
theorem Reaches.snoc {p : Program Answer α} {question : Q}
    {next : Answer question → Program Answer α} (h : Reaches p es (.ask question next))
    (reply : Answer question) : Reaches p (es ++ [⟨question, reply⟩]) (next reply) :=
  h.trans (.ask question next reply (.refl _))

/-- A history comes to the result. -/
theorem reaches_done {p : Program Answer α} {result : α} :
    Reaches p es (.done result) ↔ History p es result := by
  constructor
  · intro h
    generalize heq : (.done result : Program Answer α) = left at h
    induction h with
    | refl =>
      subst heq
      exact .done result
    | ask question next reply _ ih => exact .ask question next reply (ih heq)
  · intro h
    induction h with
    | done result => exact .refl _
    | ask question next reply _ ih => exact .ask question next reply ih

/-- A program of two parts is in its first part, or done with it and in its second. -/
theorem Reaches.of_bind {p : Program Answer α} {f : α → Program Answer β} {left : Program Answer β}
    (h : Reaches (p >>= f) es left) :
    (∃ rest, Reaches p es rest ∧ left = rest >>= f) ∨
      ∃ before value after, es = before ++ after ∧ History p before value ∧
        Reaches (f value) after left := by
  change Reaches (p.bind f) es left at h
  induction p generalizing es with
  | done value => exact Or.inr ⟨[], value, es, rfl, .done value, h⟩
  | ask question next ih =>
    cases h with
    | refl => exact Or.inl ⟨_, .refl _, rfl⟩
    | ask _ _ reply h =>
      rcases ih reply h with ⟨rest, hr, rfl⟩ | ⟨before, value, after, rfl, hb, ha⟩
      · exact Or.inl ⟨rest, .ask question next reply hr, rfl⟩
      · exact Or.inr ⟨_, value, after, rfl, .ask question next reply hb, ha⟩

/-- What a program asks on its way is of the kind of all that it asks. -/
theorem Only.reaches [∀ question, Nonempty (Answer question)] {p left : Program Answer α}
    (hp : Only kind p) (h : Reaches p es left) : ∀ e ∈ es, kind e.question := by
  obtain ⟨rest, result, hr⟩ := exists_history left
  intro e he
  exact hp (reaches_done.mp (h.trans (reaches_done.mpr hr))) e (List.mem_append_left _ he)

/-- The question that a program has come to is of the kind of all that it asks. -/
theorem Only.asks [∀ question, Nonempty (Answer question)] {p : Program Answer α} (hp : Only kind p)
    {question : Q} {next : Answer question → Program Answer α}
    (h : Reaches p es (.ask question next)) : kind question := by
  obtain ⟨reply⟩ := ‹∀ question, Nonempty (Answer question)› question
  exact hp.reaches (h.snoc reply) _ (List.mem_append_right _ List.mem_cons_self)

/-! ### Running steps -/

section Run

variable (answer : (q : Q) → σ → Answer q × σ) (s : σ)

theorem run_query (question : Q) : (query question).run answer s = answer question s := rfl

theorem run_step_pure (value : α) :
    (ExceptT.run (pure value : ExceptT ε (Program Answer) α)).run answer s = (.ok value, s) := rfl

theorem run_step_ofExcept (value : Except ε α) :
    (ExceptT.run (liftM value : ExceptT ε (Program Answer) α)).run answer s = (value, s) := rfl

theorem run_step_lift (p : Program Answer α) :
    (ExceptT.run (liftM p : ExceptT ε (Program Answer) α)).run answer s =
      (.ok (p.run answer s).1, (p.run answer s).2) :=
  run_bind answer p _ s

/-- A step of two parts is run as the first, and then as the second unless there is an error. -/
theorem run_step_bind (x : ExceptT ε (Program Answer) α) (f : α → ExceptT ε (Program Answer) β) :
    (ExceptT.run (x >>= f)).run answer s =
      match x.run.run answer s with
      | (.ok value, s) => (f value).run.run answer s
      | (.error e, s) => (.error e, s) := by
  refine (run_bind answer x.run (ExceptT.bindCont f) s).trans ?_
  rcases x.run.run answer s with ⟨_ | _, _⟩ <;> rfl

theorem run_step_adapt {ε' : Type} (f : ε → ε') (x : ExceptT ε (Program Answer) α) :
    (ExceptT.run (ExceptT.adapt f x)).run answer s =
      ((x.run.run answer s).1.mapError f, (x.run.run answer s).2) :=
  run_bind answer x.run _ s

end Run

/-! ### Courses -/

/-- The exchanges of a run in given surroundings, each with the state in which it took place. -/
def moments (answer : (q : Q) → σ → Answer q × σ) :
    Program Answer α → σ → List (σ × Exchange Answer)
  | .done _, _ => []
  | .ask question next, s =>
    let (reply, after) := answer question s
    (s, ⟨question, reply⟩) :: (next reply).moments answer after

/-- A program that is run from `s` has some moments, its result and the state it ends in. -/
def Course (answer : (q : Q) → σ → Answer q × σ) (p : Program Answer α) (s : σ)
    (ms : List (σ × Exchange Answer)) (result : α) (s' : σ) : Prop :=
  p.moments answer s = ms ∧ p.run answer s = (result, s')

variable {answer : (q : Q) → σ → Answer q × σ} {s s' : σ} {ms : List (σ × Exchange Answer)}

theorem course_self (answer : (q : Q) → σ → Answer q × σ) (p : Program Answer α) (s : σ) :
    Course answer p s (p.moments answer s) (p.run answer s).1 (p.run answer s).2 :=
  ⟨rfl, rfl⟩

/-- A course is a history. -/
theorem Course.history {p : Program Answer α} {result : α}
    (h : Course answer p s ms result s') : History p (ms.map Prod.snd) result := by
  induction p generalizing s ms with
  | done value =>
    obtain ⟨rfl, hr⟩ := h
    obtain ⟨rfl, rfl⟩ := Prod.mk.inj hr
    exact .done _
  | ask question next ih =>
    obtain ⟨rfl, hr⟩ := h
    exact .ask question next _ (ih _ ⟨rfl, hr⟩)

/-- At each moment the surroundings give the answer. -/
theorem Course.answered {p : Program Answer α} {result : α}
    (h : Course answer p s ms result s') : ∀ m ∈ ms, (answer m.2.question m.1).1 = m.2.answer := by
  induction p generalizing s ms with
  | done value =>
    obtain ⟨rfl, -⟩ := h
    simp [moments]
  | ask question next ih =>
    obtain ⟨rfl, hr⟩ := h
    intro m hm
    rcases List.mem_cons.mp hm with rfl | hm
    · rfl
    · exact ih _ ⟨rfl, hr⟩ m hm

theorem course_pure {value result : α} :
    Course answer (pure value : Program Answer α) s ms result s' ↔
      ms = [] ∧ result = value ∧ s' = s := by
  constructor
  · rintro ⟨rfl, hr⟩
    obtain ⟨rfl, rfl⟩ := Prod.mk.inj hr
    exact ⟨rfl, rfl, rfl⟩
  · rintro ⟨rfl, rfl, rfl⟩
    exact ⟨rfl, rfl⟩

theorem course_query {question : Q} {result : Answer question} :
    Course answer (query question) s ms result s' ↔
      ms = [(s, ⟨question, result⟩)] ∧ answer question s = (result, s') := by
  constructor
  · rintro ⟨rfl, hr⟩
    change ((answer question s).1, (answer question s).2) = _ at hr
    obtain ⟨rfl, rfl⟩ := Prod.mk.inj hr
    exact ⟨rfl, rfl⟩
  · rintro ⟨rfl, hr⟩
    constructor
    · simp [query, moments, hr]
    · simp [query, run, hr]

theorem course_bind {p : Program Answer α} {f : α → Program Answer β} {result : β} :
    Course answer (p >>= f) s ms result s' ↔
      ∃ before value between after, ms = before ++ after ∧
        Course answer p s before value between ∧
          Course answer (f value) between after result s' := by
  change Course answer (p.bind f) s ms result s' ↔ _
  induction p generalizing s ms with
  | done value =>
    constructor
    · exact fun h => ⟨[], value, s, ms, rfl, ⟨rfl, rfl⟩, h⟩
    · rintro ⟨_, _, _, after, rfl, ⟨rfl, hr⟩, h⟩
      obtain ⟨rfl, rfl⟩ := Prod.mk.inj hr
      exact h
  | ask question next ih =>
    constructor
    · rintro ⟨rfl, hr⟩
      obtain ⟨before, value, between, after, hm, hp, hf⟩ :=
        (ih (answer question s).1).mp ⟨rfl, hr⟩
      exact ⟨(s, ⟨question, _⟩) :: before, value, between, after, congrArg _ hm,
        ⟨congrArg _ hp.1, hp.2⟩, hf⟩
    · rintro ⟨_, value, between, after, rfl, ⟨rfl, hp⟩, hf⟩
      obtain ⟨hm, hr⟩ := (ih (answer question s).1).mpr
        ⟨_, value, between, after, rfl, ⟨rfl, hp⟩, hf⟩
      exact ⟨congrArg _ hm, hr⟩

/-- The questions of some moments are all of one kind. -/
def Asked (kind : Q → Prop) (ms : List (σ × Exchange Answer)) : Prop :=
  ∀ m ∈ ms, kind m.2.question

@[simp] theorem asked_nil : Asked kind ([] : List (σ × Exchange Answer)) := by
  simp [Asked]

@[simp] theorem asked_cons {m : σ × Exchange Answer} :
    Asked kind (m :: ms) ↔ kind m.2.question ∧ Asked kind ms := by
  simp [Asked]

@[simp] theorem asked_append {before after : List (σ × Exchange Answer)} :
    Asked kind (before ++ after) ↔ Asked kind before ∧ Asked kind after :=
  List.forall_mem_append

theorem Asked.imp {kind' : Q → Prop} (h : Asked kind ms)
    (hi : ∀ question, kind question → kind' question) : Asked kind' ms :=
  fun m hm => hi _ (h m hm)

theorem asked_of_history (h : ∀ e ∈ ms.map Prod.snd, kind e.question) : Asked kind ms :=
  fun m hm => h m.2 (List.mem_map_of_mem hm)

/-- What is not in the first part of a list is in the second. -/
theorem mem_of_before {γ : Type} {xs ys pre post : List γ} {x : γ} (h : xs ++ ys = pre ++ x :: post)
    (hx : x ∉ xs) : ∃ rest, pre = xs ++ rest ∧ ys = rest ++ x :: post := by
  rcases List.append_eq_append_iff.mp h with ⟨rest, hp, hy⟩ | ⟨rest, hp, hy⟩
  · exact ⟨rest, hp, hy⟩
  · cases rest with
    | nil => exact ⟨[], by simpa using hp.symm, by simpa using hy.symm⟩
    | cons y rest =>
      obtain ⟨rfl, -⟩ := List.cons.inj hy
      exact absurd (by simp [hp]) hx

/-- What is not in the second part of a list is in the first. -/
theorem mem_of_after {γ : Type} {xs ys pre post : List γ} {x : γ} (h : xs ++ ys = pre ++ x :: post)
    (hx : x ∉ ys) : ∃ rest, xs = pre ++ x :: rest := by
  rcases List.append_eq_append_iff.mp h with ⟨rest, -, hy⟩ | ⟨rest, hp, hy⟩
  · exact absurd (by simp [hy]) hx
  · cases rest with
    | nil => exact absurd (by simp [← List.nil_append ys ▸ hy]) hx
    | cons y rest =>
      obtain ⟨rfl, -⟩ := List.cons.inj hy
      exact ⟨rest, hp⟩

/-- What no question of a course changes is the same at each of its moments and at its end. -/
theorem Course.frame {τ : Type} (view : σ → τ) {p : Program Answer α} {result : α}
    (h : Course answer p s ms result s')
    (same : ∀ m ∈ ms, ∀ t, view (answer m.2.question t).2 = view t) :
    (∀ m ∈ ms, view m.1 = view s) ∧ view s' = view s := by
  induction p generalizing s ms with
  | done value =>
    obtain ⟨rfl, hr⟩ := h
    obtain ⟨-, rfl⟩ := Prod.mk.inj hr
    simp [moments]
  | ask question next ih =>
    obtain ⟨rfl, hr⟩ := h
    have first : view (answer question s).2 = view s := same _ List.mem_cons_self s
    obtain ⟨later, last⟩ := ih (answer question s).1 ⟨rfl, hr⟩
      fun m hm => same m (List.mem_cons_of_mem _ hm)
    refine ⟨fun m hm => ?_, last.trans first⟩
    rcases List.mem_cons.mp hm with rfl | hm
    · rfl
    · exact (later m hm).trans first

/-! ### Courses of steps that may fail -/

theorem course_step_bind {x : ExceptT ε (Program Answer) α}
    {f : α → ExceptT ε (Program Answer) β} {result : Except ε β} :
    Course answer (ExceptT.run (x >>= f)) s ms result s' ↔
      (∃ e, Course answer x.run s ms (.error e) s' ∧ result = .error e) ∨
        ∃ before value between after, ms = before ++ after ∧
          Course answer x.run s before (.ok value) between ∧
            Course answer (f value).run between after result s' := by
  change Course answer (x.run >>= ExceptT.bindCont f) s ms result s' ↔ _
  rw [course_bind]
  constructor
  · rintro ⟨before, value, between, after, rfl, hx, hf⟩
    cases value with
    | error e =>
      obtain ⟨rfl, rfl, rfl⟩ := course_pure.mp hf
      exact Or.inl ⟨e, by simpa using hx, rfl⟩
    | ok value => exact Or.inr ⟨before, value, between, after, rfl, hx, hf⟩
  · rintro (⟨e, hx, rfl⟩ | ⟨before, value, between, after, rfl, hx, hf⟩)
    · exact ⟨ms, .error e, s', [], by simp, hx, course_pure.mpr ⟨rfl, rfl, rfl⟩⟩
    · exact ⟨before, .ok value, between, after, rfl, hx, hf⟩

theorem course_step_lift_bind {p : Program Answer α} {f : α → ExceptT ε (Program Answer) β}
    {result : Except ε β} :
    Course answer (ExceptT.run (liftM p >>= f)) s ms result s' ↔
      ∃ before value between after, ms = before ++ after ∧ Course answer p s before value between ∧
        Course answer (f value).run between after result s' := by
  rw [step_lift_bind, course_bind]

end BlockVolume.Program
