import BlockVolume.Proofs.Operation.Parts
/-!
Waiting for a disk to settle.

A watch is made of look-ups, each made with the client that the one before has left, and of waits
between them. It ends with the first look-up that fails or finds the disk settled. If none of those
that the policy grants does so, it ends with an error of its own, and does not wait after the last.
-/

namespace BlockVolume.Operation

open BlockVolume.Cloud (Client Disk)
open BlockVolume.Program

variable {setting : Setting} {region expected : String} {settled : Disk → Bool}
  {client : Client} {granted left attempt : Nat} {es : List (Exchange Ask.Answer)}
  {outcome : Except OperationError (Client × Disk)}

/-! ### Look-ups -/

/-- A look-up: its exchanges, and what it comes to. -/
structure LookUp where
  exchanges : List (Exchange Ask.Answer)
  result : Except OperationError (Client × Disk)

variable {look : LookUp} {lookUps rest : List LookUp}

/-- There is nothing to wait for after the look-up: it failed, or it has found the disk settled. -/
def LookUp.isFinal (settled : Disk → Bool) (look : LookUp) : Bool :=
  match look.result with
  | .ok (_, disk) => settled disk
  | .error _ => true

/-- Look-ups are made one after the other, the first with the given client, and each other one with
the client that the one before has left. -/
def InTurn (setting : Setting) (region : String) : Client → List LookUp → Prop
  | _, [] => True
  | client, look :: rest =>
    History (setting.describe region client).run look.exchanges look.result ∧
      match look.result with
      | .ok (next, _) => InTurn setting region next rest
      | .error _ => rest = []

/-- The exchanges of some look-ups, the first being look-up number `attempt`. After each of them but
the last there is a wait, the one of the policy for its number. -/
def spaced (policy : RetryPolicy) : (attempt : Nat) → List LookUp → List (Exchange Ask.Answer)
  | _, [] => []
  | _, [last] => last.exchanges
  | attempt, look :: rest =>
    look.exchanges ++ ⟨.sleep (policy.backoff attempt), ()⟩ :: spaced policy (attempt + 1) rest

/-- What look-ups come to, if `granted` of them may be made. -/
inductive ComeTo (setting : Setting) (expected : String) (settled : Disk → Bool) (granted : Nat) :
    List LookUp → Except OperationError (Client × Disk) → Prop where
  /-- The last is the first that is final. -/
  | final {earlier : List LookUp} {last : LookUp}
      (waited : ∀ look ∈ earlier, look.isFinal settled = false)
      (final : last.isFinal settled = true) (within : earlier.length < granted) :
      ComeTo setting expected settled granted (earlier ++ [last]) last.result
  /-- None of all that are granted is final. -/
  | spent {lookUps : List LookUp} (waited : ∀ look ∈ lookUps, look.isFinal settled = false)
      (all : lookUps.length = granted) :
      ComeTo setting expected settled granted lookUps (.error (.failed setting.context
        (.notSettled expected setting.policy.maxAttempts.toNat)))

theorem LookUp.isFinal_eq_false :
    look.isFinal settled = false ↔
      ∃ next disk, look.result = .ok (next, disk) ∧ settled disk = false := by
  rw [isFinal]
  split
  case h_1 next disk found => simp [found]
  case h_2 e failed => simp [failed]

/-- The first look-up is final and the only one, or the others come to it. -/
theorem comeTo_cons :
    ComeTo setting expected settled (granted + 1) (look :: rest) outcome ↔
      (look.isFinal settled = true ∧ rest = [] ∧ outcome = look.result) ∨
        look.isFinal settled = false ∧ ComeTo setting expected settled granted rest outcome := by
  constructor
  · intro h
    generalize split : look :: rest = lookUps at h
    cases h with
    | @final earlier last waited final within =>
      cases earlier with
      | nil =>
        obtain ⟨rfl, rfl⟩ := List.cons.inj split
        exact .inl ⟨final, rfl, rfl⟩
      | cons first earlier =>
        obtain ⟨rfl, rfl⟩ := List.cons.inj split
        obtain ⟨first, later⟩ := List.forall_mem_cons.mp waited
        exact .inr ⟨first, .final later final (Nat.lt_of_succ_lt_succ within)⟩
    | spent waited all =>
      subst split
      obtain ⟨first, later⟩ := List.forall_mem_cons.mp waited
      exact .inr ⟨first, .spent later (Nat.succ.inj all)⟩
  · rintro (⟨final, rfl, rfl⟩ | ⟨first, h⟩)
    · have none : ∀ look ∈ ([] : List LookUp), look.isFinal settled = false := by simp
      exact .final none final (Nat.succ_pos granted)
    · cases h with
      | final waited final within =>
        exact .final (List.forall_mem_cons.mpr ⟨first, waited⟩) final (Nat.succ_lt_succ within)
      | spent waited all =>
        exact .spent (List.forall_mem_cons.mpr ⟨first, waited⟩) (congrArg Nat.succ all)

/-- No look-up is made exactly if none is granted. -/
theorem ComeTo.eq_nil_iff (h : ComeTo setting expected settled granted lookUps outcome) :
    lookUps = [] ↔ granted = 0 := by
  cases h with
  | final waited final within => simp [Nat.ne_zero_of_lt within]
  | spent waited all => rw [← all, List.length_eq_zero_iff]

/-! ### A watch -/

/-- The wait after look-up number `attempt`, if others are left. -/
def pause (policy : RetryPolicy) (left attempt : Nat) : List (Exchange Ask.Answer) :=
  if left = 0 then [] else [⟨.sleep (policy.backoff attempt), ()⟩]

theorem spaced_cons (last : rest = [] ↔ left = 0) (policy : RetryPolicy) (attempt : Nat) :
    spaced policy attempt (look :: rest) =
      look.exchanges ++ (pause policy left attempt ++ spaced policy (attempt + 1) rest) := by
  cases rest with
  | nil => simp [spaced, pause, last.mp rfl]
  | cons second rest =>
    have more : left ≠ 0 := fun none => by simp [none] at last
    simp [spaced, pause, more]

example (policy : RetryPolicy) (a b c : LookUp) :
    spaced policy 1 [a, b, c] =
      a.exchanges ++ ⟨.sleep (policy.backoff 1), ()⟩ ::
        (b.exchanges ++ ⟨.sleep (policy.backoff 2), ()⟩ :: c.exchanges) := rfl

/-- A watch that may look is a look-up, after which it is over, or a wait and the watch with one
look-up less. -/
theorem history_watch_succ :
    History (setting.watch region expected settled (left + 1) attempt client).run es outcome ↔
      ∃ (look : LookUp) (after : List (Exchange Ask.Answer)), es = look.exchanges ++ after ∧
        History (setting.describe region client).run look.exchanges look.result ∧
        ((look.isFinal settled = true ∧ after = [] ∧ outcome = look.result) ∨
          ∃ next disk rest, look.result = .ok (next, disk) ∧ settled disk = false ∧
            after = pause setting.policy left attempt ++ rest ∧
            History (setting.watch region expected settled left (attempt + 1) next).run rest
              outcome) := by
  rw [Setting.watch, history_step_bind]
  constructor
  · rintro (⟨e, hd, rfl⟩ | ⟨before, ⟨next, disk⟩, after, rfl, hd, ha⟩)
    · exact ⟨⟨es, .error e⟩, [], by simp, hd, .inl ⟨rfl, rfl, rfl⟩⟩
    · refine ⟨⟨before, .ok (next, disk)⟩, after, rfl, hd, ?_⟩
      dsimp only at ha
      split at ha
      case isTrue done =>
        obtain ⟨rfl, rfl⟩ := history_step_pure.mp ha
        exact .inl ⟨done, rfl, rfl⟩
      case isFalse unsettled =>
        refine .inr ⟨next, disk, ?_⟩
        rw [pause]
        split at ha
        case isTrue more =>
          obtain ⟨_, ⟨⟩, rest, rfl, hs, hw⟩ := history_step_lift_bind.mp ha
          obtain rfl := history_query.mp hs
          exact ⟨rest, rfl, Bool.eq_false_iff.mpr unsettled, by rw [if_neg more], hw⟩
        case isFalse last =>
          have last : left = 0 := not_not.mp last
          exact ⟨after, rfl, Bool.eq_false_iff.mpr unsettled, by simp [last], ha⟩
  · rintro ⟨look, after, rfl, hd, h⟩
    rcases h with ⟨final, rfl, rfl⟩ | ⟨next, disk, rest, found, unsettled, rfl, hw⟩
    · cases result : look.result with
      | error e =>
        rw [result] at hd
        exact .inl ⟨e, by simpa using hd, rfl⟩
      | ok found =>
        rw [result] at hd
        rw [LookUp.isFinal, result] at final
        refine .inr ⟨look.exchanges, found, [], rfl, hd, ?_⟩
        dsimp only at final ⊢
        rw [if_pos final]
        exact history_step_pure.mpr ⟨rfl, rfl⟩
    · rw [found] at hd
      refine .inr ⟨look.exchanges, (next, disk), _, rfl, hd, ?_⟩
      dsimp only
      rw [if_neg (Bool.eq_false_iff.mp unsettled), pause]
      split
      case isTrue more =>
        exact history_step_lift_bind.mpr ⟨_, (), rest, rfl, history_query.mpr rfl, hw⟩
      case isFalse last => rwa [if_pos (not_not.mp last)]

/-- The histories of a watch are those of look-ups in turn, spaced by waits, up to the first that is
final. -/
theorem history_watch_iff :
    History (setting.watch region expected settled left attempt client).run es outcome ↔
      ∃ lookUps, InTurn setting region client lookUps ∧
        es = spaced setting.policy attempt lookUps ∧
        ComeTo setting expected settled left lookUps outcome := by
  induction left generalizing attempt client es with
  | zero =>
    rw [Setting.watch, history_fail]
    constructor
    · rintro ⟨rfl, rfl⟩
      exact ⟨[], trivial, rfl, .spent (by simp) rfl⟩
    · rintro ⟨lookUps, -, rfl, h⟩
      obtain rfl := h.eq_nil_iff.mpr rfl
      generalize none : ([] : List LookUp) = lookUps at h
      cases h with
      | final => simp at none
      | spent => exact ⟨by rw [← none]; rfl, rfl⟩
  | succ left ih =>
    rw [history_watch_succ]
    constructor
    · rintro ⟨look, after, rfl, hd, ⟨final, rfl, rfl⟩ | ⟨next, disk, rest, found, unsettled, rfl, hw⟩⟩
      · refine ⟨[look], ⟨hd, ?_⟩, by simp [spaced], comeTo_cons.mpr (.inl ⟨final, rfl, rfl⟩)⟩
        split <;> trivial
      · obtain ⟨lookUps, inTurn, rfl, comeTo⟩ := ih.mp hw
        have waited : look.isFinal settled = false :=
          LookUp.isFinal_eq_false.mpr ⟨next, disk, found, unsettled⟩
        refine ⟨look :: lookUps, ⟨hd, by rwa [found]⟩, ?_, comeTo_cons.mpr (.inr ⟨waited, comeTo⟩)⟩
        rw [spaced_cons comeTo.eq_nil_iff]
    · rintro ⟨lookUps, inTurn, rfl, comeTo⟩
      cases lookUps with
      | nil => exact absurd (comeTo.eq_nil_iff.mp rfl) (Nat.succ_ne_zero left)
      | cons look rest =>
        obtain ⟨hd, later⟩ := inTurn
        rcases comeTo_cons.mp comeTo with ⟨final, rfl, rfl⟩ | ⟨waited, comeTo⟩
        · exact ⟨look, [], by simp [spaced], hd, .inl ⟨final, rfl, rfl⟩⟩
        · obtain ⟨next, disk, found, unsettled⟩ := LookUp.isFinal_eq_false.mp waited
          rw [found] at later
          refine ⟨look, _, spaced_cons comeTo.eq_nil_iff .., hd, .inr ?_⟩
          exact ⟨next, disk, _, found, unsettled, rfl, ih.mpr ⟨rest, later, rfl, comeTo⟩⟩

/-- A disk that a watch gives has settled. -/
theorem ComeTo.settled_of_ok {next : Client} {disk : Disk}
    (h : ComeTo setting expected settled granted lookUps (.ok (next, disk))) :
    settled disk = true := by
  generalize found : Except.ok (next, disk) = outcome at h
  cases h with
  | spent => cases found
  | final waited final within =>
    rw [LookUp.isFinal, ← found] at final
    exact final

/-- The histories of a wait for a disk are those of look-ups in turn, with the waits of the policy
between them and none after the last. The first look-up that fails or finds the disk settled is the
last, and has the result of the whole; if there is none among as many as the policy has attempts, so
many are made, and the disk has not settled. In any surroundings a wait goes so, and a disk that it
gives has settled. -/
theorem waitFor_in_turn (setting : Setting) (region expected : String) (settled : Disk → Bool)
    (client : Client) :
    let waiting := (setting.waitFor region expected settled client).run
    let granted := setting.policy.maxAttempts.toNat
    (∀ es outcome, History waiting es outcome ↔
      ∃ lookUps, InTurn setting region client lookUps ∧ es = spaced setting.policy 1 lookUps ∧
        ComeTo setting expected settled granted lookUps outcome) ∧
    (∀ (σ : Type) (answer : (q : Ask) → σ → Ask.Answer q × σ) (s : σ),
      ∃ lookUps, InTurn setting region client lookUps ∧
        (waiting.moments answer s).map Prod.snd = spaced setting.policy 1 lookUps ∧
        ComeTo setting expected settled granted lookUps (waiting.run answer s).1) ∧
    ∀ es next disk, History waiting es (.ok (next, disk)) → settled disk = true := by
  intro waiting granted
  have turns (es outcome) : History waiting es outcome ↔
      ∃ lookUps, InTurn setting region client lookUps ∧ es = spaced setting.policy 1 lookUps ∧
        ComeTo setting expected settled granted lookUps outcome := history_watch_iff
  refine ⟨turns, fun σ answer s => ?_, fun es next disk found => ?_⟩
  · exact (turns _ _).mp (course_self answer waiting s).history
  · obtain ⟨lookUps, -, -, comeTo⟩ := (turns _ _).mp found
    exact comeTo.settled_of_ok

end BlockVolume.Operation
