/-!
How often a busy control plane is asked again, and how long the waits are.
-/

namespace BlockVolume.Operation

/-- Bounds on attempts and waits. -/
structure RetryPolicy where
  /-- All attempts, the first one included. -/
  maxAttempts : UInt32
  initialBackoffMs : UInt64
  maxBackoffMs : UInt64
  deriving DecidableEq

namespace RetryPolicy

/-- Eight attempts, with waits from one up to ten seconds. -/
def standard : RetryPolicy := ⟨8, 1000, 10000⟩

/-- The longest span of time that can be told, in milliseconds. -/
def longestMs : Nat := 18446744073709551615 * 1000 + 999

/-- Twice a wait, or `cap` where that cannot be told. -/
def twice (cap delay : Nat) : Nat :=
  if delay * 2 ≤ longestMs then delay * 2 else cap

/-- Doubles a wait `times` times, or until it has reached `cap` or is nothing. -/
def grow (cap : Nat) : (times delay : Nat) → Nat
  | 0, delay => delay
  | times + 1, delay =>
    let next := twice cap delay
    if cap ≤ next || next = 0 then next else grow cap times next

/-- The wait in milliseconds after the failed attempt `attempt`, counted from one. -/
def backoff (policy : RetryPolicy) (attempt : Nat) : Nat :=
  min (grow policy.maxBackoffMs.toNat (attempt - 1) policy.initialBackoffMs.toNat)
    policy.maxBackoffMs.toNat

end RetryPolicy
end BlockVolume.Operation
