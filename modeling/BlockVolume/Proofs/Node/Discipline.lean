import BlockVolume.Proofs.Lock.Turns
import BlockVolume.Proofs.Node.Traffic
import BlockVolume.Proofs.Questions
/-!
Calls that call the control plane under a lock.

A program is `Disciplined` if it asks for one lock at a time, calls the control plane only between
asking for the lock and giving it back, and has no lock when it ends. While calls of such programs
are under way, the lock table knows which of them asked for what — this is `Guarded`, and each step
preserves it. So no two calls have one lock, the calls to the control plane of two of them do not
interleave, and a lock that nobody has is there for the call that asked for it first.
-/

namespace BlockVolume.Node

open BlockVolume.Lock (Table)
open BlockVolume.Program

variable {σ μ ι α : Type}

/-! ### One program -/

/-- The lock that was asked for and not given back along some exchanges. -/
def claimed (es : List (Exchange Ask.Answer)) : Option LockKey :=
  es.foldl (fun now e =>
    match e.question with
    | .acquire key => some key
    | .release _ => none
    | _ => now) none

variable {es fs : List (Exchange Ask.Answer)} {key : LockKey}

theorem claimed_acquire : claimed (es ++ [⟨.acquire key, ()⟩]) = some key := by
  simp [claimed]

theorem claimed_release : claimed (es ++ [⟨.release key, ()⟩]) = none := by
  simp [claimed]

theorem claimed_append (es : List (Exchange Ask.Answer))
    (quiet : ∀ e ∈ fs, e.question.isLock = false) :
    claimed (es ++ fs) = claimed es := by
  rw [claimed, claimed, List.foldl_append]
  generalize List.foldl _ none es = now
  induction fs with
  | nil => rfl
  | cons e rest ih =>
    rw [List.foldl_cons]
    have own := quiet e List.mem_cons_self
    rcases e with ⟨question, reply⟩
    cases question with
    | acquire key => cases own
    | release key => cases own
    | _ => exact ih fun e he => quiet e (List.mem_cons_of_mem _ he)

/-- A program asks for one lock at a time, calls the control plane only for the lock that it asked
for, and has none when it ends. -/
structure Disciplined (p : NodeProgram α) : Prop where
  acquire : ∀ {es key next}, Reaches p es (.ask (.acquire key) next) →
    claimed es = none ∧ ∀ e ∈ es, e.question.isControl = false
  control : ∀ {es question next}, Reaches p es (.ask question next) → question.isControl →
    ∃ key, claimed es = some key ∧ ∀ other, ⟨.acquire other, ()⟩ ∈ es → other = key
  finish : ∀ {es result}, History p es result → claimed es = none

/-! ### The order of calls to the control plane -/

/-- In the numbers of calls in order, none of the second comes before one of the first. -/
def Precedes (numbers : List Nat) (first second : Nat) : Prop :=
  numbers.Pairwise fun a b => ¬(a = second ∧ b = first)

section Order

variable {numbers : List Nat} {acquires : List (Nat × LockKey)} {number first second : Nat}

theorem precedes_of_not_mem_left (h : first ∉ numbers) : Precedes numbers first second :=
  List.pairwise_of_forall_mem_list fun _ _ _ hb both => h (both.2 ▸ hb)

theorem precedes_of_not_mem_right (h : second ∉ numbers) : Precedes numbers first second :=
  List.pairwise_of_forall_mem_list fun _ ha _ _ both => h (both.1 ▸ ha)

/-- Another one of the second, or of a third. -/
theorem Precedes.snoc (h : Precedes numbers first second) (ne : number ≠ first) :
    Precedes (numbers ++ [number]) first second := by
  refine List.pairwise_append.mpr ⟨h, List.pairwise_singleton _ _, fun a _ b hb both => ne ?_⟩
  rw [← both.2, List.mem_singleton.mp hb]

/-- What the locks have to do with the order in which locks were asked for and the control plane was
called: who waits for a lock made no call yet, and who holds it calls after all others that asked
for it. -/
structure Ordered (locks : Table Nat) (acquires : List (Nat × LockKey)) (controls : List Nat) :
    Prop where
  quiet : ∀ {number key}, locks.grip number = some (key, false) → number ∉ controls
  last : ∀ {number other key}, locks.grip number = some (key, true) → number ≠ other →
    (other, key) ∈ acquires → Precedes controls other number
  apart : ∀ {number other key}, number ≠ other → (number, key) ∈ acquires →
    (other, key) ∈ acquires → Precedes controls number other ∨ Precedes controls other number

namespace Ordered

variable {locks after : Table Nat} {controls : List Nat} {other : Nat}

/-- No call gets another grip than it had, but that it may notice that it was handed its lock. -/
theorem loosen (h : Ordered locks acquires controls)
    (grips : ∀ {number key held}, after.grip number = some (key, held) →
      ∃ before, locks.grip number = some (key, before) ∧ (before = true → held = true)) :
    Ordered after acquires controls where
  quiet waits := by
    obtain ⟨before, hg, grown⟩ := grips waits
    cases before with
    | true => cases grown rfl
    | false => exact h.quiet hg
  last holds ne asked := by
    obtain ⟨before, hg, -⟩ := grips holds
    cases before with
    | true => exact h.last hg ne asked
    | false => exact precedes_of_not_mem_right (h.quiet hg)
  apart := h.apart

theorem weaken (h : Ordered locks acquires controls)
    (grips : ∀ number grip, after.grip number = some grip → locks.grip number = some grip) :
    Ordered after acquires controls :=
  h.loosen fun hg => ⟨_, grips _ _ hg, id⟩

theorem poll (h : Ordered locks acquires controls) (name : Nat) :
    Ordered (locks.poll name) acquires controls :=
  h.loosen Table.grip_of_poll

/-- A call that made no call to the control plane asks for a lock. -/
theorem start (h : Ordered locks acquires controls) (silent : number ∉ controls) :
    Ordered (locks.start number key) (acquires ++ [(number, key)]) controls where
  quiet {other key} waits := by
    by_cases own : other = number
    · rwa [own]
    · rw [Table.grip_start_of_ne own] at waits
      exact h.quiet waits
  last {holder other key} holds ne asked := by
    by_cases own : holder = number
    · exact precedes_of_not_mem_right (own ▸ silent)
    · rw [Table.grip_start_of_ne own] at holds
      rcases List.mem_append.mp asked with asked | asked
      · exact h.last holds ne asked
      · obtain ⟨rfl, rfl⟩ := Prod.mk.inj (List.mem_singleton.mp asked)
        exact precedes_of_not_mem_left silent
  apart {one other key} ne asked asked' := by
    rcases List.mem_append.mp asked with asked | asked
    · rcases List.mem_append.mp asked' with asked' | asked'
      · exact h.apart ne asked asked'
      · obtain ⟨rfl, rfl⟩ := Prod.mk.inj (List.mem_singleton.mp asked')
        exact Or.inl (precedes_of_not_mem_right silent)
    · obtain ⟨rfl, rfl⟩ := Prod.mk.inj (List.mem_singleton.mp asked)
      exact Or.inl (precedes_of_not_mem_left silent)

/-- The call that holds a lock, and asked for no other, calls the control plane. -/
theorem control (h : Ordered locks acquires controls) (formed : locks.WellFormed)
    (holds : locks.grip number = some (key, true))
    (one : ∀ other, (number, other) ∈ acquires → other = key) :
    Ordered locks acquires (controls ++ [number]) where
  quiet {other key} waits called := by
    rcases List.mem_append.mp called with called | called
    · exact h.quiet waits called
    · rw [List.mem_singleton.mp called, holds] at waits
      cases waits
  last {holder other key} holds' ne asked := by
    refine (h.last holds' ne asked).snoc ?_
    rintro rfl
    -- the caller would hold the key of the other holder
    rw [← one _ asked] at holds
    exact ne (formed.grip_inj holds' holds)
  apart {one' other key} ne asked asked' := by
    by_cases own : one' = number
    · subst own
      rw [← one _ asked] at holds
      exact Or.inr ((h.last holds ne asked').snoc ne)
    · by_cases own' : other = number
      · subst own'
        rw [← one _ asked'] at holds
        exact Or.inl ((h.last holds ne.symm asked).snoc ne.symm)
      · exact (h.apart ne asked asked').imp (·.snoc (Ne.symm own)) (·.snoc (Ne.symm own'))

end Ordered

end Order

/-! ### Calls under way -/

namespace Traffic

variable {traffic : Traffic σ μ ι α} {number other : Nat}

/-- The locks that calls asked for, with the numbers of the calls, in order. -/
def acquires (traffic : Traffic σ μ ι α) : List (Nat × LockKey) :=
  traffic.log.filterMap fun entry =>
    match entry.2.question with
    | .acquire key => some (entry.1, key)
    | _ => none

/-- The numbers of the calls that called the control plane, in order. -/
def controls (traffic : Traffic σ μ ι α) : List Nat :=
  traffic.callers (·.question.isControl)

/-- The lock that a call asked for, and did not give back. -/
def claim (traffic : Traffic σ μ ι α) (number : Nat) : Option LockKey :=
  match traffic.calls[number]? with
  | some ⟨_, .going _⟩ => claimed (traffic.past number)
  | _ => none

theorem mem_acquires :
    (number, key) ∈ traffic.acquires ↔ ⟨.acquire key, ()⟩ ∈ traffic.past number := by
  rw [mem_past, acquires, List.mem_filterMap]
  constructor
  · rintro ⟨⟨other, question, reply⟩, he, heq⟩
    cases question with
    | acquire found =>
      obtain ⟨rfl, rfl⟩ := Prod.mk.inj (Option.some.inj heq)
      exact he
    | _ => cases heq
  · exact fun he => ⟨_, he, rfl⟩

theorem mem_controls :
    number ∈ traffic.controls ↔ ∃ e ∈ traffic.past number, e.question.isControl = true :=
  mem_callers

/-! ### What a move adds -/

section Growth

variable (world : World σ μ) (calls : List (Call ι α)) (log : List (Nat × Exchange Ask.Answer))
  (number : Nat) (e : Exchange Ask.Answer)

theorem acquires_snoc_acquire (key : LockKey) :
    (Traffic.mk world calls (log ++ [(number, ⟨.acquire key, ()⟩)])).acquires =
      (Traffic.mk world calls log).acquires ++ [(number, key)] := by
  simp [acquires]

theorem acquires_snoc_release (key : LockKey) :
    (Traffic.mk world calls (log ++ [(number, ⟨.release key, ()⟩)])).acquires =
      (Traffic.mk world calls log).acquires := by
  simp [acquires]

theorem acquires_snoc (h : e.question.isLock = false) :
    (Traffic.mk world calls (log ++ [(number, e)])).acquires =
      (Traffic.mk world calls log).acquires := by
  rcases e with ⟨question, reply⟩
  cases question with
  | acquire key => cases h
  | release key => cases h
  | _ => simp [acquires]

theorem controls_snoc :
    (Traffic.mk world calls (log ++ [(number, e)])).controls =
      (Traffic.mk world calls log).controls ++ if e.question.isControl then [number] else [] :=
  callers_snoc ..

end Growth

theorem claim_begin {program : ι → NodeProgram α} (h : Tracked program traffic) (order : ι)
    (rest : NodeProgram α) :
    claim { traffic with calls := traffic.calls ++ [⟨order, .going rest⟩] } number =
      traffic.claim number := by
  rw [claim, claim]
  rcases Nat.lt_trichotomy number traffic.calls.length with old | rfl | new
  · rw [List.getElem?_append_left old]
    rfl
  · rw [List.getElem?_concat_length, List.getElem?_eq_none (Nat.le_refl _)]
    exact congrArg claimed (h.past_eq_nil (Nat.le_refl _))
  · rw [List.getElem?_eq_none (by simp; omega), List.getElem?_eq_none (by omega)]

/-- A call that is over claims nothing. -/
theorem claim_ended (world : World σ μ) {call : Call ι α}
    (ended : ∀ rest, call.progress ≠ .going rest) :
    claim { traffic with world, calls := traffic.calls.set number call } other =
      if other = number then none else traffic.claim other := by
  by_cases own : other = number
  · subst own
    rw [if_pos rfl, claim]
    split
    case h_1 here =>
      rcases getElem?_set_some here with ⟨-, rfl⟩ | ⟨ne, -⟩
      · exact absurd rfl (ended _)
      · exact absurd rfl ne
    case h_2 => rfl
  · rw [if_neg own, claim, List.getElem?_set_ne (Ne.symm own)]
    rfl

/-- What a call claims that asked one more question. -/
theorem claim_ask (world : World σ μ) {order order' : ι} {rest rest' : NodeProgram α}
    (here : traffic.calls[number]? = some ⟨order, .going rest⟩) (e : Exchange Ask.Answer) :
    claim ⟨world, traffic.calls.set number ⟨order', .going rest'⟩, traffic.log ++ [(number, e)]⟩ other =
      if other = number then claimed (traffic.past number ++ [e]) else traffic.claim other := by
  rw [claim, past_snoc]
  by_cases own : other = number
  · subst own
    rw [List.getElem?_set_self (List.getElem?_eq_some_iff.mp here).1, if_pos rfl, if_pos rfl]
    rfl
  · rw [List.getElem?_set_ne (Ne.symm own), if_neg (Ne.symm own), List.append_nil, if_neg own]
    rfl

/-! ### Steps -/

/-- The locks know what each call asked for, and calls to the control plane are in order. -/
structure Guarded (traffic : Traffic σ μ ι α) : Prop where
  formed : traffic.world.locks.WellFormed
  queued : traffic.world.locks.Queued
  grips : ∀ number, (traffic.world.locks.grip number).map Prod.fst = traffic.claim number
  turns : traffic.world.locks.turns.Sublist traffic.acquires
  ordered : Ordered traffic.world.locks traffic.acquires traffic.controls

variable {program : ι → NodeProgram α} {cloud : CloudModel σ} {mounter : MounterModel μ}
  {next : Traffic σ μ ι α}

theorem isWaiting_iff {world : World σ μ} (formed : world.locks.WellFormed) :
    world.isWaiting number = true ↔ ∃ key, world.locks.grip number = some (key, false) := by
  rw [World.isWaiting, Table.waiting, List.any_eq_true]
  constructor
  · rintro ⟨claim, hc, own⟩
    obtain ⟨hc, standing⟩ := List.mem_filter.mp hc
    exact ⟨claim.key, (Table.grip_eq_some formed).mpr
      ⟨claim, hc, beq_iff_eq.mp own, rfl, by simpa using standing⟩⟩
  · rintro ⟨key, hg⟩
    obtain ⟨claim, hc, own, -, standing⟩ := (Table.grip_eq_some formed).mp hg
    exact ⟨claim, List.mem_filter.mpr ⟨hc, by simpa using standing⟩, beq_iff_eq.mpr own⟩

/-- A call that does not wait holds the lock that it asked for. -/
theorem Guarded.holds (h : Guarded traffic) (claim : traffic.claim number = some key)
    (free : traffic.world.isWaiting number = false) :
    traffic.world.locks.grip number = some (key, true) := by
  rw [← h.grips] at claim
  obtain ⟨⟨_, held⟩, hg, rfl⟩ := Option.map_eq_some_iff.mp claim
  cases held with
  | true => exact hg
  | false =>
    rw [(isWaiting_iff h.formed).mpr ⟨_, hg⟩] at free
    cases free

theorem Guarded.grip_eq_none (h : Guarded traffic) (claim : traffic.claim number = none) :
    traffic.world.locks.grip number = none := by
  rw [← h.grips] at claim
  exact Option.map_eq_none_iff.mp claim

theorem Guarded.polled (h : Guarded traffic) (number : Nat) :
    Guarded { traffic with world := traffic.world.polled number } where
  formed := h.formed.poll number
  queued := h.queued.poll number
  grips other := (Table.key_grip_poll _ _ _).trans (h.grips other)
  turns := by
    rw [World.polled, Table.turns_poll]
    exact h.turns
  ordered := h.ordered.poll number

/-- A call is over that had no lock, or has none any more. -/
theorem Guarded.ended (h : Guarded traffic) {world : World σ μ} {call : Call ι α}
    (ended : ∀ rest, call.progress ≠ .going rest) (formed : world.locks.WellFormed)
    (queued : world.locks.Queued) (turns : world.locks.turns.Sublist traffic.world.locks.turns)
    (gone : world.locks.grip number = none)
    (others : ∀ other, other ≠ number → world.locks.grip other = traffic.world.locks.grip other) :
    Guarded { traffic with world, calls := traffic.calls.set number call } where
  formed := formed
  queued := queued
  grips other := by
    rw [claim_ended world ended]
    split
    case isTrue own => rw [own, gone, Option.map_none]
    case isFalse ne => rw [others other ne, h.grips]
  turns := turns.trans h.turns
  ordered := by
    refine h.ordered.weaken fun other grip hg => ?_
    by_cases own : other = number
    · rw [own, gone] at hg
      cases hg
    · rwa [others other own] at hg

theorem locks_answer {question : Ask} (h : question.isLock = false) (cloud : CloudModel σ)
    (mounter : MounterModel μ) (number : Nat) (world : World σ μ) :
    (world.answer cloud mounter number question).2.2.locks = world.locks := by
  cases question with
  | acquire key => cases h
  | release key => cases h
  | cloud question =>
    cases question with
    | client credentials =>
      simp only [World.answer, World.answerCloud]
      split <;> rfl
    | _ => rfl
  | tree question => cases question <;> rfl
  | _ => rfl

section Ask

variable {order : ι} {rest : NodeProgram α} {question : Ask} {reply : question.Answer}

/-- A call without a lock, which did not call the control plane, asks for one. -/
theorem Guarded.acquire (h : Guarded traffic)
    (here : traffic.calls[number]? = some ⟨order, .going rest⟩) (rest' : NodeProgram α)
    (none : traffic.claim number = none) (silent : number ∉ traffic.controls) (key : LockKey) :
    Guarded
      { world := { traffic.world with locks := traffic.world.locks.start number key }
        calls := traffic.calls.set number ⟨order, .going rest'⟩
        log := traffic.log ++ [(number, ⟨.acquire key, ()⟩)] } := by
  have new := h.grip_eq_none none
  refine ⟨h.formed.start number key, h.queued.start number key, fun other => ?_, ?_, ?_⟩
  · rw [claim_ask _ here]
    by_cases own : other = number
    · obtain ⟨held, hg⟩ := Table.grip_start key new
      rw [own, if_pos rfl, hg]
      exact claimed_acquire.symm
    · rw [if_neg own, Table.grip_start_of_ne own, h.grips]
  · rw [Table.turns_start new, acquires_snoc_acquire]
    exact h.turns.append_right _
  · rw [acquires_snoc_acquire, controls_snoc, if_neg (by simp [Ask.isControl]), List.append_nil]
    exact h.ordered.start silent

/-- A call that does not wait gives its lock back. -/
theorem Guarded.release (h : Guarded traffic)
    (here : traffic.calls[number]? = some ⟨order, .going rest⟩) (rest' : NodeProgram α)
    (free : traffic.world.isWaiting number = false) (key : LockKey) :
    Guarded
      { world := { traffic.world with locks := traffic.world.locks.release number }
        calls := traffic.calls.set number ⟨order, .going rest'⟩
        log := traffic.log ++ [(number, ⟨.release key, ()⟩)] } := by
  have gone : (traffic.world.locks.release number).grip number = none :=
    Table.grip_release fun key hg => by
      rw [(isWaiting_iff h.formed).mpr ⟨key, hg⟩] at free
      cases free
  refine ⟨h.formed.release number, h.queued.release h.formed number, fun other => ?_, ?_, ?_⟩
  · rw [claim_ask _ here]
    by_cases own : other = number
    · rw [own, if_pos rfl, gone]
      exact claimed_release.symm
    · rw [if_neg own, Table.grip_release_of_ne own, h.grips]
  · rw [acquires_snoc_release]
    exact (Table.turns_release _ _).trans h.turns
  · rw [acquires_snoc_release, controls_snoc, if_neg (by simp [Ask.isControl]), List.append_nil]
    refine h.ordered.weaken fun other grip hg => ?_
    by_cases own : other = number
    · rw [own, gone] at hg
      cases hg
    · rwa [Table.grip_release_of_ne own] at hg

/-- A call asks something else — where that is a call to the control plane, it has a lock, and asked
for no other. -/
theorem Guarded.unlocked (h : Guarded traffic)
    (here : traffic.calls[number]? = some ⟨order, .going rest⟩) (rest' : NodeProgram α)
    (free : traffic.world.isWaiting number = false) {world : World σ μ}
    (same : world.locks = traffic.world.locks) (lock : question.isLock = false)
    (control : question.isControl = true → ∃ key, traffic.claim number = some key ∧
      ∀ other, (number, other) ∈ traffic.acquires → other = key) :
    Guarded
      { world
        calls := traffic.calls.set number ⟨order, .going rest'⟩
        log := traffic.log ++ [(number, ⟨question, reply⟩)] } := by
  refine ⟨same ▸ h.formed, same ▸ h.queued, fun other => ?_, ?_, ?_⟩
  · rw [claim_ask _ here, same, h.grips]
    split
    case isTrue own =>
      rw [claimed_append _ fun e he => by rwa [List.mem_singleton.mp he], own, claim, here]
    case isFalse => rfl
  · rw [acquires_snoc _ _ _ _ _ lock, same]
    exact h.turns
  · rw [acquires_snoc _ _ _ _ _ lock, controls_snoc, same]
    split
    case isTrue calls =>
      obtain ⟨key, claim, one⟩ := control calls
      exact h.ordered.control h.formed (h.holds claim free) one
    case isFalse =>
      rw [List.append_nil]
      exact h.ordered

/-- A call that does not wait asks a question. -/
theorem Guarded.ask (h : Guarded traffic) (tracked : Tracked program traffic)
    (disciplined : Disciplined (program order)) {rest : question.Answer → NodeProgram α}
    {wait : Option Nat} {world : World σ μ}
    (here : traffic.calls[number]? = some ⟨order, .going (.ask question rest)⟩)
    (free : traffic.world.isWaiting number = false)
    (answered : traffic.world.answer cloud mounter number question = (reply, wait, world)) :
    Guarded ⟨world, traffic.calls.set number ⟨order, .going (rest reply)⟩,
      traffic.log ++ [(number, ⟨question, reply⟩)]⟩ := by
  have way : Reaches (program order) (traffic.past number) (.ask question rest) :=
    tracked.along number _ here
  have claims : traffic.claim number = claimed (traffic.past number) := by rw [claim, here]
  cases lock : question.isLock with
  | true =>
    cases question with
    | acquire key =>
      obtain ⟨none, silent⟩ := disciplined.acquire way
      obtain ⟨-, rfl⟩ := Prod.mk.inj (Prod.mk.inj answered).2
      refine h.acquire here _ (claims.trans none) (fun called => ?_) key
      obtain ⟨e, he, control⟩ := mem_controls.mp called
      rw [silent e he] at control
      cases control
    | release key =>
      obtain ⟨-, rfl⟩ := Prod.mk.inj (Prod.mk.inj answered).2
      exact h.release here _ free key
    | _ => cases lock
  | false =>
    have same := locks_answer lock cloud mounter number traffic.world
    rw [answered] at same
    refine h.unlocked here _ free same lock fun control => ?_
    obtain ⟨key, some, one⟩ := disciplined.control way control
    exact ⟨key, claims.trans some, fun other asked => one other (mem_acquires.mp asked)⟩

end Ask

theorem Guarded.step (h : Guarded traffic) (tracked : Tracked program traffic)
    (disciplined : ∀ order, Disciplined (program order))
    (moved : Step program cloud mounter traffic next) : Guarded next := by
  cases moved with
  | pass ms => exact ⟨h.formed, h.queued, h.grips, h.turns, h.ordered⟩
  | begin order =>
    exact ⟨h.formed, h.queued, fun number => (h.grips number).trans (claim_begin tracked _ _).symm,
      h.turns, h.ordered⟩
  | @finish number order result here =>
    refine (h.polled number).ended (by simp) (h.formed.poll number) (h.queued.poll number)
      (List.Sublist.refl _) ((h.polled number).grip_eq_none ?_) fun _ _ => rfl
    have none := (disciplined order).finish (reaches_done.mp (tracked.along number _ here))
    rw [claim]
    dsimp only
    rw [here]
    exact none
  | @giveUp number order rest here =>
    refine h.ended (by simp) ((h.formed.release number).cancel number)
      ((h.queued.release h.formed number).cancel (h.formed.release number) number)
      ((Table.turns_cancel _ _).trans (Table.turns_release _ _)) (Table.grip_giveUp _ _)
      fun other ne => ?_
    rw [Table.grip_cancel_of_ne ne, Table.grip_release_of_ne ne]
  | @ask number order question rest reply wait world here free answered =>
    exact (h.polled number).ask ⟨tracked.along, tracked.known⟩ (disciplined order) here free answered

/-! ### All moves -/

theorem guarded_run (disciplined : ∀ order, Disciplined (program order)) (cloud : CloudModel σ)
    (mounter : MounterModel μ) (moves : List (Move ι)) (cloudState : σ) (mounterState : μ)
    (tree : Host.FileTree) :
    Guarded (run program cloud mounter moves (.start cloudState mounterState tree)) := by
  refine (run_induction (P := fun traffic => Tracked program traffic ∧ Guarded traffic) ?_
    (fun _ _ h moved => ⟨h.1.step moved, h.2.step h.1 disciplined moved⟩) moves).2
  refine ⟨⟨by simp [start], by simp [start]⟩, Table.wellFormed_run [], ?_, ?_, ?_, ?_⟩
  · exact ⟨List.Pairwise.nil, by simp [start, World.start, Table.empty]⟩
  · intro number
    simp [start, claim, World.start, Table.empty, Table.grip, Table.claim?]
  · exact List.Sublist.refl _
  · constructor <;> simp [start, World.start, Table.empty, Table.grip, Table.claim?, acquires]

/-- Two calls that have one lock are the same. -/
theorem Guarded.eq_of_claim (h : Guarded traffic) (claim : traffic.claim number = some key)
    (claim' : traffic.claim other = some key) (free : traffic.world.isWaiting number = false)
    (free' : traffic.world.isWaiting other = false) : number = other :=
  h.formed.grip_inj (h.holds claim free) (h.holds claim' free')

/-- Where a lock is waited for and nobody has it, the call that asked for it first goes on. -/
theorem Guarded.next_claim (h : Guarded traffic) (claim : traffic.claim number = some key)
    (none : ∀ other, traffic.claim other = some key → traffic.world.isWaiting other = true) :
    ∃ first, traffic.claim first = some key ∧ traffic.world.isWaiting first = true ∧
      (traffic.world.polled first).isWaiting first = false ∧
      ∀ other, traffic.claim other = some key → other ≠ first →
        [(first, key), (other, key)].Sublist traffic.acquires := by
  have grip {other : Nat} (claim : traffic.claim other = some key) :
      ∃ held, traffic.world.locks.grip other = some (key, held) := by
    rw [← h.grips] at claim
    obtain ⟨⟨_, held⟩, hg, rfl⟩ := Option.map_eq_some_iff.mp claim
    exact ⟨held, hg⟩
  obtain ⟨held, hg⟩ := grip claim
  have free (other : Nat) : traffic.world.locks.grip other ≠ some (key, true) := fun hg => by
    have waits := none other (by rw [← h.grips, hg]; rfl)
    obtain ⟨_, hg'⟩ := (isWaiting_iff h.formed).mp waits
    rw [hg] at hg'
    cases hg'
  obtain ⟨first, waits, now, oldest⟩ := h.queued.next h.formed hg free
  refine ⟨first, by rw [← h.grips, waits]; rfl, (isWaiting_iff h.formed).mpr ⟨key, waits⟩, ?_, ?_⟩
  · refine Bool.eq_false_iff.mpr fun waits => ?_
    obtain ⟨_, hg'⟩ := (isWaiting_iff (h.polled first).formed).mp waits
    rw [World.polled, now] at hg'
    cases hg'
  · intro other claim ne
    obtain ⟨held, hg⟩ := grip claim
    exact (oldest other held hg ne).trans h.turns

end Traffic
end BlockVolume.Node
