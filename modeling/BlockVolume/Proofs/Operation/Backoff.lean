import BlockVolume.Operation.Policy
import Mathlib.Algebra.Order.Ring.Nat
import Mathlib.Data.List.Chain
/-!
How long the waits are.

The wait is doubled step by step, and a step that could not be told any more would give the longest
wait instead. No step comes to that: only waits below the longest are doubled again, and twice as much
can always be told. So the wait after an attempt is the first one doubled once for every attempt
before, or the longest wait if that is less.
-/

namespace BlockVolume.Operation.RetryPolicy

variable {cap delay times : Nat}

/-- The waits that doubling goes through from `delay` on: it ends after `times` steps, or with the
first step that reaches `cap`. -/
def waits (cap : Nat) : (times delay : Nat) → List Nat
  | 0, delay => [delay]
  | times + 1, delay =>
    let next := twice cap delay
    delay :: if cap ≤ next then [next] else waits cap times next

/-! ### One step -/

/-- What fits 64 bits can be told when it is doubled. -/
theorem twice_of_lt (small : delay < 2 ^ 64) (cap : Nat) :
    delay * 2 ≤ longestMs ∧ twice cap delay = delay * 2 := by
  have told : delay * 2 ≤ longestMs := by
    simp only [longestMs]
    omega
  exact ⟨told, if_pos told⟩

/-- A wait of nothing stays nothing, however often it is doubled. -/
theorem grow_zero (cap times : Nat) : grow cap times 0 = 0 := by
  cases times <;> simp [grow, twice]

/-- That doubling ends early at nothing changes no wait. -/
theorem grow_succ (cap times delay : Nat) :
    grow cap (times + 1) delay =
      if cap ≤ twice cap delay then twice cap delay else grow cap times (twice cap delay) := by
  rw [grow]
  by_cases nothing : twice cap delay = 0
  · simp [nothing, grow_zero]
  · simp [nothing]

theorem head?_waits (cap times delay : Nat) : (waits cap times delay).head? = some delay := by
  cases times <;> rfl

/-! ### All steps -/

/-- What is grown is the last of the waits. -/
theorem getLast?_waits (cap times delay : Nat) :
    (waits cap times delay).getLast? = some (grow cap times delay) := by
  induction times generalizing delay with
  | zero => rfl
  | succ times ih =>
    rw [waits, grow_succ]
    split
    case isTrue => rfl
    case isFalse => rw [List.getLast?_cons, ih, Option.getD_some]

/-- Each wait is twice the one before, and no step goes past what can be told. -/
theorem isChain_waits (small : delay < 2 ^ 64) (capSmall : cap < 2 ^ 64) :
    (waits cap times delay).IsChain fun wait next => wait * 2 ≤ longestMs ∧ next = wait * 2 := by
  induction times generalizing delay with
  | zero => exact List.isChain_singleton delay
  | succ times ih =>
    have step := twice_of_lt small cap
    rw [waits]
    split
    case isTrue => simpa using step
    case isFalse below =>
      refine List.isChain_cons.mpr ⟨?_, ih (by omega)⟩
      intro next first
      rw [head?_waits] at first
      obtain rfl := Option.mem_some_iff.mp first
      exact step

theorem min_grow (small : delay < 2 ^ 64) (capSmall : cap < 2 ^ 64) :
    min (grow cap times delay) cap = min (delay * 2 ^ times) cap := by
  induction times generalizing delay with
  | zero => simp [grow]
  | succ times ih =>
    have power : delay * 2 ^ (times + 1) = delay * 2 * 2 ^ times := by
      rw [Nat.pow_succ', Nat.mul_assoc]
    rw [grow_succ, (twice_of_lt small cap).2, power]
    split
    case isTrue reached =>
      -- what has reached the cap is cut to it, doubled on or not
      have more : delay * 2 ≤ delay * 2 * 2 ^ times :=
        Nat.le_mul_of_pos_right _ (Nat.two_pow_pos times)
      rw [Nat.min_eq_right reached, Nat.min_eq_right (reached.trans more)]
    case isFalse below => exact ih (by omega)

/-! ### Policies -/

variable (policy : RetryPolicy)

/-- The waits that the loop of a policy goes through before it answers for an attempt. -/
def waitsBefore (attempt : Nat) : List Nat :=
  waits policy.maxBackoffMs.toNat (attempt - 1) policy.initialBackoffMs.toNat

theorem backoff_eq_min (attempt : Nat) :
    policy.backoff attempt =
      min (policy.initialBackoffMs.toNat * 2 ^ (max attempt 1 - 1)) policy.maxBackoffMs.toNat := by
  have least : max attempt 1 - 1 = attempt - 1 := by omega
  rw [backoff, min_grow policy.initialBackoffMs.toNat_lt policy.maxBackoffMs.toNat_lt, least]

theorem backoff_mono : Monotone policy.backoff := by
  intro attempt later le
  rw [backoff_eq_min, backoff_eq_min]
  have powers : 2 ^ (max attempt 1 - 1) ≤ 2 ^ (max later 1 - 1) :=
    Nat.pow_le_pow_right Nat.two_pos (by omega)
  exact min_le_min_right _ (Nat.mul_le_mul_left _ powers)

/-- The wait after an attempt is the first wait times a power of two, cut to the longest wait. The
loop gets there by steps that each double the wait exactly and never go past what can be told. So
waits never become shorter, nor longer than the longest one. -/
theorem backoff_in_closed_form (attempt : Nat) :
    policy.backoff attempt =
        min (policy.initialBackoffMs.toNat * 2 ^ (max attempt 1 - 1)) policy.maxBackoffMs.toNat ∧
      (∃ grown, (policy.waitsBefore attempt).getLast? = some grown ∧
        policy.backoff attempt = min grown policy.maxBackoffMs.toNat) ∧
      (policy.waitsBefore attempt).IsChain
        (fun wait next => wait * 2 ≤ longestMs ∧ next = wait * 2) ∧
      Monotone policy.backoff ∧ policy.backoff attempt ≤ policy.maxBackoffMs.toNat := by
  refine ⟨policy.backoff_eq_min attempt, ⟨_, getLast?_waits _ _ _, rfl⟩, ?_, policy.backoff_mono,
    Nat.min_le_right _ _⟩
  exact isChain_waits policy.initialBackoffMs.toNat_lt policy.maxBackoffMs.toNat_lt

example : standard.waitsBefore 40 = [1000, 2000, 4000, 8000, 16000] ∧
    standard.backoff 40 = 10000 := by decide

end BlockVolume.Operation.RetryPolicy
