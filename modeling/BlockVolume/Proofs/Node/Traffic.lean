import BlockVolume.Node.Traffic
import BlockVolume.Proofs.History
import Mathlib.Data.List.Perm.Subperm
/-!
What one move of the calls under way can do, and what holds after all moves.

`Step` lists the moves that change anything. Each call has come along its exchanges from the program
of its order, however the calls are interleaved — so what is known of the histories of a program is
known of each call.
-/

namespace BlockVolume.Node

open BlockVolume.Program

variable {σ μ ι α : Type} {program : ι → NodeProgram α} {cloud : CloudModel σ}
  {mounter : MounterModel μ}

/-- A call has come along some exchanges from the program of its order. -/
def Call.Along (program : ι → NodeProgram α) (es : List (Exchange Ask.Answer)) (call : Call ι α) :
    Prop :=
  match call.progress with
  | .going rest => Reaches (program call.order) es rest
  | .ended result => History (program call.order) es result
  | .givenUp => ∃ rest, Reaches (program call.order) es rest

namespace Traffic

variable {traffic next : Traffic σ μ ι α} {number other : Nat} {order : ι}

/-- The moves that change anything. -/
inductive Step (program : ι → NodeProgram α) (cloud : CloudModel σ) (mounter : MounterModel μ)
    (traffic : Traffic σ μ ι α) : Traffic σ μ ι α → Prop where
  | begin (order : ι) :
      Step program cloud mounter traffic
        { traffic with calls := traffic.calls ++ [⟨order, .going (program order)⟩] }
  | finish {number : Nat} {order : ι} {result : α}
      (here : traffic.calls[number]? = some ⟨order, .going (.done result)⟩)
      (free : (traffic.world.polled number).isWaiting number = false) :
      Step program cloud mounter traffic
        { traffic with
          world := traffic.world.polled number
          calls := traffic.calls.set number ⟨order, .ended result⟩ }
  | ask {number : Nat} {order : ι} {question : Ask} {next : question.Answer → NodeProgram α}
      {reply : question.Answer} {wait : Option Nat} {world : World σ μ}
      (here : traffic.calls[number]? = some ⟨order, .going (.ask question next)⟩)
      (free : (traffic.world.polled number).isWaiting number = false)
      (answered : (traffic.world.polled number).answer cloud mounter number question =
        (reply, wait, world)) :
      Step program cloud mounter traffic
        { world
          calls := traffic.calls.set number ⟨order, .going (next reply)⟩
          log := traffic.log ++ [(number, ⟨question, reply⟩)] }
  | giveUp {number : Nat} {order : ι} {rest : NodeProgram α}
      (here : traffic.calls[number]? = some ⟨order, .going rest⟩) :
      Step program cloud mounter traffic
        { traffic with
          world :=
            { traffic.world with locks := (traffic.world.locks.release number).cancel number }
          calls := traffic.calls.set number ⟨order, .givenUp⟩ }
  | pass (ms : Nat) :
      Step program cloud mounter traffic { traffic with world := traffic.world.pass ms }

theorem goOn_done {result : α} (cloud : CloudModel σ) (mounter : MounterModel μ)
    (here : traffic.calls[number]? = some ⟨order, .going (.done result)⟩)
    (free : (traffic.world.polled number).isWaiting number = false) :
    traffic.goOn cloud mounter number =
      { traffic with
        world := traffic.world.polled number
        calls := traffic.calls.set number ⟨order, .ended result⟩ } := by
  simp [goOn, here, free]

theorem goOn_ask {question : Ask} {next : question.Answer → NodeProgram α} {reply : question.Answer}
    {wait : Option Nat} {world : World σ μ}
    (here : traffic.calls[number]? = some ⟨order, .going (.ask question next)⟩)
    (free : (traffic.world.polled number).isWaiting number = false)
    (answered : (traffic.world.polled number).answer cloud mounter number question =
      (reply, wait, world)) :
    traffic.goOn cloud mounter number =
      { world
        calls := traffic.calls.set number ⟨order, .going (next reply)⟩
        log := traffic.log ++ [(number, ⟨question, reply⟩)] } := by
  simp [goOn, here, free, answered]

/-- A call that goes on asks its next question or ends, unless it waits. -/
theorem step_of_goOn {rest : NodeProgram α}
    (here : traffic.calls[number]? = some ⟨order, .going rest⟩)
    (free : (traffic.world.polled number).isWaiting number = false) :
    Step program cloud mounter traffic (traffic.goOn cloud mounter number) := by
  cases rest with
  | done result =>
    rw [goOn_done cloud mounter here free]
    exact .finish here free
  | ask question next =>
    rw [goOn_ask here free rfl]
    exact .ask here free rfl

theorem step_cases (program : ι → NodeProgram α) (cloud : CloudModel σ) (mounter : MounterModel μ)
    (traffic : Traffic σ μ ι α) (move : Move ι) :
    traffic.step program cloud mounter move = traffic ∨
      Step program cloud mounter traffic (traffic.step program cloud mounter move) := by
  cases move with
  | begin order => exact Or.inr (.begin order)
  | pass ms => exact Or.inr (.pass ms)
  | goOn number =>
    cases hc : traffic.calls[number]? with
    | none => exact Or.inl (by simp [step, goOn, hc])
    | some call =>
      obtain ⟨order, progress⟩ := call
      cases progress with
      | going rest =>
        cases free : (traffic.world.polled number).isWaiting number with
        | true => exact Or.inl (by simp [step, goOn, hc, free])
        | false => exact Or.inr (step_of_goOn hc free)
      | ended result => exact Or.inl (by simp [step, goOn, hc])
      | givenUp => exact Or.inl (by simp [step, goOn, hc])
  | giveUp number =>
    cases hc : traffic.calls[number]? with
    | none => exact Or.inl (by simp [step, giveUp, hc])
    | some call =>
      obtain ⟨order, progress⟩ := call
      cases progress with
      | going rest =>
        refine Or.inr ?_
        simp only [step, giveUp, hc]
        exact .giveUp hc
      | ended result => exact Or.inl (by simp [step, giveUp, hc])
      | givenUp => exact Or.inl (by simp [step, giveUp, hc])

/-- What the calls do to the world when one of them goes on. -/
theorem world_goOn (traffic : Traffic σ μ ι α) (cloud : CloudModel σ) (mounter : MounterModel μ)
    (number : Nat) :
    (traffic.goOn cloud mounter number).world = traffic.world ∨
      (traffic.goOn cloud mounter number).world = traffic.world.polled number ∨
      ∃ (order : ι) (question : Ask) (rest : question.Answer → NodeProgram α),
        traffic.calls[number]? = some ⟨order, .going (.ask question rest)⟩ ∧
        (traffic.goOn cloud mounter number).world =
          ((traffic.world.polled number).answer cloud mounter number question).2.2 := by
  rw [goOn]
  split
  case h_2 => exact Or.inl rfl
  case h_1 order rest here =>
    dsimp only
    split
    · exact Or.inl rfl
    · cases rest with
      | done result => exact Or.inr (Or.inl rfl)
      | ask question rest => exact Or.inr (Or.inr ⟨order, question, rest, here, rfl⟩)

/-- What holds at first and is kept by each step holds after all moves. -/
theorem foldl_induction {P : Traffic σ μ ι α → Prop} (start : P traffic)
    (step : ∀ traffic next, P traffic → Step program cloud mounter traffic next → P next)
    (moves : List (Move ι)) : P (moves.foldl (Traffic.step program cloud mounter) traffic) := by
  induction moves generalizing traffic with
  | nil => exact start
  | cons move rest ih =>
    rcases step_cases program cloud mounter traffic move with same | moved
    · rw [List.foldl_cons, same]
      exact ih start
    · exact ih (step _ _ start moved)

theorem run_append (program : ι → NodeProgram α) (cloud : CloudModel σ) (mounter : MounterModel μ)
    (moves later : List (Move ι)) (world : World σ μ) :
    run program cloud mounter (moves ++ later) world =
      later.foldl (Traffic.step program cloud mounter) (run program cloud mounter moves world) :=
  List.foldl_append

theorem run_induction {P : Traffic σ μ ι α → Prop} {world : World σ μ} (start : P (start world))
    (step : ∀ traffic next, P traffic → Step program cloud mounter traffic next → P next)
    (moves : List (Move ι)) : P (run program cloud mounter moves world) :=
  foldl_induction start step moves

/-! ### Each call on its own -/

/-- Each call has come along its exchanges, and there are no exchanges but those of calls. -/
structure Tracked (program : ι → NodeProgram α) (traffic : Traffic σ μ ι α) : Prop where
  along : ∀ (number : Nat) (call : Call ι α), traffic.calls[number]? = some call →
    call.Along program (traffic.past number)
  known : ∀ entry ∈ traffic.log, entry.1 < traffic.calls.length

/-- Each call has come along its exchanges to something. -/
theorem Tracked.reaches (h : Tracked program traffic) {call : Call ι α}
    (here : traffic.calls[number]? = some call) :
    ∃ rest, Reaches (program call.order) (traffic.past number) rest := by
  have along := h.along number call here
  obtain ⟨order, progress⟩ := call
  cases progress with
  | going rest => exact ⟨rest, along⟩
  | ended result => exact ⟨_, reaches_done.mpr along⟩
  | givenUp => exact along

theorem mem_past {e : Exchange Ask.Answer} :
    e ∈ traffic.past number ↔ (number, e) ∈ traffic.log := by
  simp [past]

theorem past_snoc (world : World σ μ) (calls : List (Call ι α)) (log : List (Nat × Exchange Ask.Answer))
    (number : Nat) (e : Exchange Ask.Answer) (other : Nat) :
    (Traffic.mk world calls (log ++ [(number, e)])).past other =
      (Traffic.mk world calls log).past other ++ if number = other then [e] else [] := by
  by_cases own : number = other <;> simp [past, own]

theorem Tracked.past_eq_nil (h : Tracked program traffic) (new : traffic.calls.length ≤ number) :
    traffic.past number = [] := by
  rw [past, List.map_eq_nil_iff, List.filter_eq_nil_iff]
  intro entry he same
  have := h.known entry he
  rw [beq_iff_eq.mp same] at this
  omega

/-- What stands at a place where an element was set. -/
theorem getElem?_set_some {β : Type} {xs : List β} {i j : Nat} {x y : β}
    (h : (xs.set i x)[j]? = some y) : (j = i ∧ y = x) ∨ (j ≠ i ∧ xs[j]? = some y) := by
  by_cases own : i = j
  · subst own
    by_cases inside : i < xs.length
    · simp [inside] at h
      exact Or.inl ⟨rfl, h.symm⟩
    · simp [inside] at h
  · rw [List.getElem?_set_ne own] at h
    exact Or.inr ⟨fun same => own same.symm, h⟩

/-- What stands at a place after an element was added at the end. -/
theorem getElem?_concat_some {β : Type} {xs : List β} {j : Nat} {x y : β}
    (h : (xs ++ [x])[j]? = some y) : (j = xs.length ∧ y = x) ∨ xs[j]? = some y := by
  by_cases old : j < xs.length
  · exact Or.inr (by rwa [List.getElem?_append_left old] at h)
  · rw [List.getElem?_append_right (by omega), List.getElem?_singleton] at h
    split at h
    · exact Or.inl ⟨by omega, (Option.some.inj h).symm⟩
    · cases h

/-- A call gets the answer to its question. -/
theorem Tracked.ask (h : Tracked program traffic) {question : Ask}
    {next : question.Answer → NodeProgram α}
    (here : traffic.calls[number]? = some ⟨order, .going (.ask question next)⟩)
    (reply : question.Answer) (world : World σ μ) :
    Tracked program
      { world
        calls := traffic.calls.set number ⟨order, .going (next reply)⟩
        log := traffic.log ++ [(number, ⟨question, reply⟩)] } := by
  constructor
  · intro other call hc
    rw [past_snoc]
    rcases getElem?_set_some hc with ⟨rfl, rfl⟩ | ⟨ne, hc⟩
    · rw [if_pos rfl]
      exact Reaches.snoc (h.along other _ here) reply
    · rw [if_neg ne.symm, List.append_nil]
      exact h.along other call hc
  · intro entry he
    rw [List.length_set]
    rcases List.mem_append.mp he with he | he
    · exact h.known entry he
    · obtain rfl := List.mem_singleton.mp he
      exact (List.getElem?_eq_some_iff.mp here).1

theorem Tracked.step (h : Tracked program traffic) (moved : Step program cloud mounter traffic next) :
    Tracked program next := by
  cases moved with
  | pass ms => exact ⟨h.along, h.known⟩
  | begin order =>
    refine ⟨fun number call hc => ?_, fun entry he => ?_⟩
    · rcases getElem?_concat_some hc with ⟨rfl, rfl⟩ | hc
      · change Reaches _ (traffic.past _) _
        rw [h.past_eq_nil (Nat.le_refl _)]
        exact .refl _
      · exact h.along number call hc
    · have := h.known entry he
      simp
      omega
  | @finish number order result here =>
    refine ⟨fun other call hc => ?_, fun entry he => by simpa using h.known entry he⟩
    rcases getElem?_set_some hc with ⟨rfl, rfl⟩ | ⟨-, hc⟩
    · exact reaches_done.mp (h.along other _ here)
    · exact h.along other call hc
  | @giveUp number order rest here =>
    refine ⟨fun other call hc => ?_, fun entry he => by simpa using h.known entry he⟩
    rcases getElem?_set_some hc with ⟨rfl, rfl⟩ | ⟨-, hc⟩
    · exact ⟨rest, h.along other _ here⟩
    · exact h.along other call hc
  | @ask number order question next reply wait world here => exact h.ask here reply world

theorem tracked_run (program : ι → NodeProgram α) (cloud : CloudModel σ) (mounter : MounterModel μ)
    (moves : List (Move ι)) (world : World σ μ) :
    Tracked program (run program cloud mounter moves world) :=
  run_induction ⟨by simp [start], by simp [start]⟩ (fun _ _ h moved => h.step moved) moves

/-! ### All calls together -/

/-- The numbers of the calls that had an exchange of some kind, once for each, in order. -/
def callers (kind : Exchange Ask.Answer → Bool) (traffic : Traffic σ μ ι α) : List Nat :=
  (traffic.log.filter fun entry => kind entry.2).map Prod.fst

/-- The exchanges of all calls, in order. -/
def exchanges (traffic : Traffic σ μ ι α) : List (Exchange Ask.Answer) := traffic.log.map Prod.snd

variable {kind kind' : Exchange Ask.Answer → Bool}

theorem length_callers (kind : Exchange Ask.Answer → Bool) (traffic : Traffic σ μ ι α) :
    (traffic.callers kind).length = traffic.exchanges.countP kind := by
  rw [callers, exchanges, List.length_map, List.countP_map, List.countP_eq_length_filter]
  rfl

theorem exchanges_snoc (world : World σ μ) (calls : List (Call ι α))
    (log : List (Nat × Exchange Ask.Answer)) (number : Nat) (e : Exchange Ask.Answer) :
    (Traffic.mk world calls (log ++ [(number, e)])).exchanges =
      (Traffic.mk world calls log).exchanges ++ [e] := by
  simp [exchanges]

theorem mem_exchanges {e : Exchange Ask.Answer} :
    e ∈ traffic.exchanges ↔ ∃ number, e ∈ traffic.past number := by
  simp [exchanges, mem_past]

theorem mem_callers : number ∈ traffic.callers kind ↔ ∃ e ∈ traffic.past number, kind e = true := by
  simp [callers, mem_past]

theorem callers_snoc (world : World σ μ) (calls : List (Call ι α))
    (log : List (Nat × Exchange Ask.Answer)) (number : Nat) (e : Exchange Ask.Answer) :
    (Traffic.mk world calls (log ++ [(number, e)])).callers kind =
      (Traffic.mk world calls log).callers kind ++ if kind e then [number] else [] := by
  by_cases h : kind e <;> simp [callers, h]

theorem count_callers (kind : Exchange Ask.Answer → Bool) (traffic : Traffic σ μ ι α)
    (number : Nat) : (traffic.callers kind).count number = (traffic.past number).countP kind := by
  rw [callers, past, List.count_eq_countP, List.countP_map, List.countP_map, List.countP_filter,
    List.countP_filter]
  exact List.countP_congr fun entry _ => by simp [and_comm]

/-- Where each call had as many exchanges of one kind as of another, all calls had. -/
theorem perm_callers
    (same : ∀ number, (traffic.past number).countP kind = (traffic.past number).countP kind') :
    (traffic.callers kind).Perm (traffic.callers kind') := by
  rw [List.perm_iff_count]
  intro number
  rw [count_callers, count_callers, same]

/-- Where each call had one exchange of a kind at most, no more calls had one than there are. -/
theorem Tracked.length_callers_le (h : Tracked program traffic)
    (once : ∀ number, (traffic.past number).countP kind ≤ 1) :
    (traffic.callers kind).length ≤ traffic.calls.length := by
  have apart : (traffic.callers kind).Nodup := by
    rw [List.nodup_iff_count]
    intro number
    rw [count_callers]
    exact once number
  have inside : traffic.callers kind ⊆ List.range traffic.calls.length := by
    intro number called
    obtain ⟨e, he, -⟩ := mem_callers.mp called
    exact List.mem_range.mpr (h.known _ (mem_past.mp he))
  simpa using (apart.subperm inside).length_le

end Traffic
end BlockVolume.Node
