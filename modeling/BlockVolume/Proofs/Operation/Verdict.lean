import BlockVolume.Operation.Call
import Mathlib.Data.List.Basic
/-!
The rules by which the answers to a call are taken.

`verdict` says what an answer comes to after the answers before it: an answer that is final has a
result, any other is absorbed. `Settled` answers end at the first final one. A call takes its
answers attempt by attempt instead; `OneAttempt.settlesAfter_iff` says that this comes to the same,
as long as the conflicts so far and the attempts that are left make up what the policy grants.
-/

namespace BlockVolume.Operation

open BlockVolume.Cloud (ApiError ErrorClass)

/-- All attempts that a policy grants: the first one is made in any case. -/
def RetryPolicy.attempts (policy : RetryPolicy) : Nat := max 1 policy.maxAttempts.toNat

variable {α : Type}

/-- The answer is a conflict. -/
def isConflict : Except ApiError α → Bool
  | .ok _ => false
  | .error e => e.errorClass == .conflict

/-- The answer blames the client: it is an authentication or a transport error. -/
def blamesClient : Except ApiError α → Bool
  | .ok _ => false
  | .error e => e.errorClass.blamesClient

/-- What an answer comes to after the answers before it — nothing, if the call is made again. -/
def verdict (policy : RetryPolicy) (before : List (Except ApiError α)) :
    Except ApiError α → Option (Except Problem α)
  | .ok value => some (.ok value)
  | .error e =>
    match e.errorClass with
    | .capability => some (.error (.rejected .capability e))
    | .unknown => some (.error (.rejected .unknown e))
    | .conflict =>
      if before.countP isConflict + 1 = policy.attempts then
        some (.error (.stillBusy policy.attempts e))
      else none
    | .authentication =>
      if before.getLast?.any blamesClient then some (.error (.authentication e)) else none
    | .transport =>
      if before.getLast?.any blamesClient then some (.error (.transport e)) else none

/-- The answers end at the first one that is final, and this is the result. -/
def Settled (policy : RetryPolicy) (answers : List (Except ApiError α))
    (result : Except Problem α) : Prop :=
  ∃ before last, answers = before ++ [last] ∧ verdict policy before last = some result ∧
    ∀ earlier reply, earlier ++ [reply] <+: before → verdict policy earlier reply = none

/-- What is final has the value that was answered, if any. -/
theorem toOption_of_verdict {policy : RetryPolicy} {before : List (Except ApiError α)}
    {reply : Except ApiError α} {result : Except Problem α}
    (h : verdict policy before reply = some result) : result.toOption = reply.toOption := by
  cases reply with
  | ok value =>
    obtain rfl := Option.some.inj h
    rfl
  | error e =>
    cases hc : e.errorClass <;> simp only [verdict, hc, Option.ite_none_right_eq_some] at h
    case capability | unknown =>
      obtain rfl := Option.some.inj h
      rfl
    case conflict | authentication | transport =>
      obtain rfl := Option.some.inj h.2
      rfl

theorem toOption_of_absorbed {policy : RetryPolicy} {before : List (Except ApiError α)}
    {reply : Except ApiError α} (h : verdict policy before reply = none) : reply.toOption = none := by
  cases reply with
  | ok value => simp [verdict] at h
  | error e => rfl

/-- Settled answers are errors up to the last, which has the value of the result, if any. -/
theorem Settled.errors {policy : RetryPolicy} {answers : List (Except ApiError α)}
    {result : Except Problem α} (h : Settled policy answers result) :
    ∃ before last, answers = before ++ [last] ∧ (∀ reply ∈ before, reply.toOption = none) ∧
      last.toOption = result.toOption := by
  obtain ⟨before, last, rfl, hl, absorbed⟩ := h
  refine ⟨before, last, rfl, fun reply hr => ?_, (toOption_of_verdict hl).symm⟩
  obtain ⟨earlier, later, rfl⟩ := List.append_of_mem hr
  exact toOption_of_absorbed (absorbed earlier reply ⟨later, by simp⟩)

theorem Settled.of_ok {policy : RetryPolicy} {answers : List (Except ApiError α)} {value : α}
    (h : Settled policy answers (.ok value)) :
    ∃ before, answers = before ++ [.ok value] ∧ ∀ reply ∈ before, reply.toOption = none := by
  obtain ⟨before, last, rfl, failed, hl⟩ := h.errors
  cases last with
  | ok found =>
    obtain rfl := Option.some.inj hl
    exact ⟨before, rfl, failed⟩
  | error e => cases hl

/-- The answers that are to come after `past` end at the first one that is final. -/
def SettlesAfter (policy : RetryPolicy) (past : List (Except ApiError α)) :
    List (Except ApiError α) → Except Problem α → Prop
  | [], _ => False
  | reply :: rest, result =>
    match verdict policy past reply with
    | some found => rest = [] ∧ result = found
    | none => SettlesAfter policy (past ++ [reply]) rest result

theorem settlesAfter_iff {policy : RetryPolicy} {past answers : List (Except ApiError α)}
    {result : Except Problem α} :
    SettlesAfter policy past answers result ↔
      ∃ before last, answers = before ++ [last] ∧ verdict policy (past ++ before) last = some result ∧
        ∀ earlier reply, earlier ++ [reply] <+: before →
          verdict policy (past ++ earlier) reply = none := by
  induction answers generalizing past with
  | nil => simp [SettlesAfter]
  | cons first rest ih =>
    rw [SettlesAfter]
    cases hv : verdict policy past first with
    | some found =>
      constructor
      · rintro ⟨rfl, rfl⟩
        exact ⟨[], first, rfl, by simpa using hv, by simp⟩
      · rintro ⟨_ | ⟨head, before⟩, last, heq, hl, absorbed⟩
        · obtain ⟨rfl, rfl⟩ := List.cons.inj heq
          rw [List.append_nil, hv] at hl
          exact ⟨rfl, (Option.some.inj hl).symm⟩
        · -- the first answer was not absorbed
          obtain ⟨rfl, -⟩ := List.cons.inj heq
          have := absorbed [] first (by simp)
          simp [hv] at this
    | none =>
      refine ih.trans ?_
      constructor
      · rintro ⟨before, last, rfl, hl, absorbed⟩
        refine ⟨first :: before, last, rfl, by simpa using hl, fun earlier reply hp => ?_⟩
        rcases earlier with _ | ⟨head, earlier⟩
        · obtain ⟨rfl, -⟩ := List.cons_prefix_cons.mp hp
          simpa using hv
        · obtain ⟨rfl, hq⟩ := List.cons_prefix_cons.mp hp
          simpa using absorbed earlier reply hq
      · rintro ⟨_ | ⟨head, before⟩, last, heq, hl, absorbed⟩
        · obtain ⟨rfl, rfl⟩ := List.cons.inj heq
          simp [hv] at hl
        · obtain ⟨rfl, rfl⟩ := List.cons.inj heq
          refine ⟨before, last, rfl, by simpa using hl, fun earlier reply hp => ?_⟩
          simpa using absorbed (first :: earlier) reply (List.cons_prefix_cons.mpr ⟨rfl, hp⟩)

theorem blamesClient_eq_true {reply : Except ApiError α} :
    blamesClient reply = true ↔
      ∃ e : ApiError, reply = .error e ∧ e.errorClass.blamesClient = true := by
  cases reply <;> simp [blamesClient]

/-- An answer that blames the client is absorbed, unless the one before it did so too. -/
theorem verdict_of_blamesClient {policy : RetryPolicy} {before : List (Except ApiError α)}
    {reply : Except ApiError α} (h : blamesClient reply = true)
    (fresh : before.getLast?.any blamesClient = false) : verdict policy before reply = none := by
  obtain ⟨e, rfl, he⟩ := blamesClient_eq_true.mp h
  cases hc : e.errorClass <;> simp_all [verdict, ErrorClass.blamesClient]

/-- Nothing is absorbed but conflicts and answers that blame the client. -/
theorem blamesClient_of_verdict {policy : RetryPolicy} {before : List (Except ApiError α)}
    {reply : Except ApiError α} (h : verdict policy before reply = none)
    (hc : isConflict reply = false) :
    blamesClient reply = true ∧ before.getLast?.any blamesClient = false := by
  cases reply with
  | ok value => simp [verdict] at h
  | error e =>
    cases he : e.errorClass <;>
      simp_all [verdict, isConflict, blamesClient, ErrorClass.blamesClient]

/-- Where more answers are to come after one that is no conflict, it blames the client as the first
one in a row. -/
theorem SettlesAfter.absorbed {policy : RetryPolicy} {past rest : List (Except ApiError α)}
    {reply : Except ApiError α} {result : Except Problem α}
    (h : SettlesAfter policy past (reply :: rest) result) (more : rest ≠ [])
    (hc : isConflict reply = false) :
    blamesClient reply = true ∧ past.getLast?.any blamesClient = false ∧
      SettlesAfter policy (past ++ [reply]) rest result := by
  rw [SettlesAfter] at h
  cases hv : verdict policy past reply with
  | some found =>
    rw [hv] at h
    exact absurd h.1 more
  | none =>
    obtain ⟨hb, first⟩ := blamesClient_of_verdict hv hc
    rw [hv] at h
    exact ⟨hb, first, h⟩

/-- The answers of one attempt: the last one alone, where it does not blame the client, or else
after one that did. -/
def OneAttempt (first : List (Except ApiError α)) (last : Except ApiError α) : Prop :=
  (first = [] ∧ blamesClient last = false) ∨
    ∃ e : ApiError, first = [.error e] ∧ e.errorClass.blamesClient = true

section Attempt

variable {policy : RetryPolicy} {past first : List (Except ApiError α)}

/-- An attempt brings one conflict at most, its last answer. -/
theorem OneAttempt.countP_append {last : Except ApiError α} (h : OneAttempt first last) :
    (past ++ first).countP isConflict = past.countP isConflict := by
  rcases h with ⟨rfl, -⟩ | ⟨e, rfl, he⟩
  · rw [List.append_nil]
  · cases hc : e.errorClass <;> simp_all [isConflict, ErrorClass.blamesClient]

theorem OneAttempt.countP_conflict {last : Except ApiError α} (past : List (Except ApiError α))
    (h : OneAttempt first last) (hc : isConflict last = true) :
    (past ++ first ++ [last]).countP isConflict = past.countP isConflict + 1 := by
  rw [List.countP_append, h.countP_append, List.countP_singleton, if_pos hc]

/-- Where the last attempt did not leave off with a fault of the client, what an attempt begins with
is absorbed. -/
theorem OneAttempt.settlesAfter_append {last : Except ApiError α} {rest : List (Except ApiError α)}
    {result : Except Problem α} (h : OneAttempt first last)
    (fresh : past.getLast?.any blamesClient = false) :
    SettlesAfter policy past (first ++ last :: rest) result ↔
      SettlesAfter policy (past ++ first) (last :: rest) result := by
  rcases h with ⟨rfl, -⟩ | ⟨e, rfl, he⟩
  · simp
  · rw [List.singleton_append, SettlesAfter, 
      verdict_of_blamesClient (blamesClient_eq_true.mpr ⟨e, rfl, he⟩) fresh]

/-- What the last answer of an attempt comes to, with `left` attempts to follow — nothing, if they
follow. -/
def lastVerdict (left attempt : Nat) : Except ApiError α → Option (Except Problem α)
  | .ok value => some (.ok value)
  | .error e =>
    if e.errorClass = .conflict ∧ 0 < left then none else some (.error (.ofCall attempt e))

theorem blamesClient_of_isConflict {reply : Except ApiError α} (h : isConflict reply = true) :
    blamesClient reply = false := by
  cases reply with
  | ok value => rfl
  | error e => simp_all [isConflict, blamesClient, ErrorClass.blamesClient]

theorem lastVerdict_eq_none {reply : Except ApiError α} {left attempt : Nat} :
    lastVerdict left attempt reply = none ↔ isConflict reply = true ∧ left ≠ 0 := by
  cases reply <;> simp [lastVerdict, isConflict, Nat.pos_iff_ne_zero]

/-- Where as many attempts follow as the policy still grants, the last answer of an attempt comes to
what the rules say. -/
theorem OneAttempt.verdict_eq {last : Except ApiError α} {left : Nat} (h : OneAttempt first last)
    (granted : past.countP isConflict + 1 + left = policy.attempts) :
    verdict policy (past ++ first) last = lastVerdict left (past.countP isConflict + 1) last := by
  cases last with
  | ok value => rfl
  | error e =>
    have count : (past ++ first).countP isConflict = past.countP isConflict := h.countP_append
    cases hc : e.errorClass with
    | capability => simp [verdict, lastVerdict, Problem.ofCall, hc]
    | unknown => simp [verdict, lastVerdict, Problem.ofCall, hc]
    | conflict =>
      simp only [verdict, hc, count]
      cases left with
      | zero =>
        rw [if_pos granted, ← granted]
        simp [lastVerdict, Problem.ofCall, hc]
      | succ left =>
        rw [if_neg (by omega)]
        simp [lastVerdict, hc]
    | authentication | transport =>
      -- the call was made again because an answer blamed the client
      rcases h with ⟨-, hf⟩ | ⟨e', rfl, he'⟩
      · simp [blamesClient, hc, ErrorClass.blamesClient] at hf
      · simp [verdict, lastVerdict, Problem.ofCall, hc, blamesClient, he']

/-- What is to come ends with the last answer of an attempt, or with what settles the rest. -/
theorem OneAttempt.settlesAfter_iff {last : Except ApiError α} {rest : List (Except ApiError α)}
    {result : Except Problem α} {left : Nat} (h : OneAttempt first last)
    (granted : past.countP isConflict + 1 + left = policy.attempts)
    (fresh : past.getLast?.any blamesClient = false) :
    SettlesAfter policy past (first ++ last :: rest) result ↔
      match lastVerdict left (past.countP isConflict + 1) last with
      | some found => rest = [] ∧ result = found
      | none => SettlesAfter policy (past ++ first ++ [last]) rest result := by
  rw [h.settlesAfter_append fresh, SettlesAfter, h.verdict_eq granted]

/-- Any sequence of answers begins with those of an attempt. -/
theorem exists_oneAttempt (replies : Nat → Except ApiError α) :
    ∃ k, OneAttempt ((List.range k).map replies) (replies k) := by
  cases hb : blamesClient (replies 0) with
  | false => exact ⟨0, Or.inl ⟨rfl, hb⟩⟩
  | true =>
    obtain ⟨e, he, hc⟩ := blamesClient_eq_true.mp hb
    exact ⟨1, Or.inr ⟨e, by simp [he], hc⟩⟩

/-- Any sequence of answers is settled at some point, since no attempt is absorbed when none is
left. -/
theorem exists_settlesAfter {left : Nat} (past : List (Except ApiError α))
    (replies : Nat → Except ApiError α)
    (granted : past.countP isConflict + 1 + left = policy.attempts)
    (fresh : past.getLast?.any blamesClient = false) :
    ∃ n result, SettlesAfter policy past ((List.range n).map replies) result := by
  induction left using Nat.strongRecOn generalizing past replies with
  | ind left ih =>
  obtain ⟨k, one⟩ := exists_oneAttempt replies
  cases hv : lastVerdict left (past.countP isConflict + 1) (replies k) with
  | some found =>
    refine ⟨k + 1, found, ?_⟩
    rw [List.range_succ, List.map_append, List.map_singleton, one.settlesAfter_iff granted fresh, hv]
    exact ⟨rfl, rfl⟩
  | none =>
    obtain ⟨hc, hl⟩ := lastVerdict_eq_none.mp hv
    have count := one.countP_conflict past hc
    obtain ⟨n, result, hs⟩ := ih (left - 1) (by omega)
      (past ++ (List.range k).map replies ++ [replies k]) (fun i => replies (k + 1 + i)) (by omega)
      (by simp [blamesClient_of_isConflict hc])
    refine ⟨k + 1 + n, result, ?_⟩
    have split : (List.range (k + 1 + n)).map replies = (List.range k).map replies ++
        replies k :: (List.range n).map fun i => replies (k + 1 + i) := by
      simp [List.range_add]
    rw [split, one.settlesAfter_iff granted fresh, hv]
    exact hs

end Attempt

theorem settled_iff {policy : RetryPolicy} {answers : List (Except ApiError α)}
    {result : Except Problem α} :
    Settled policy answers result ↔ SettlesAfter policy [] answers result := by
  simp [settlesAfter_iff, Settled]

/-- At the start of a call all attempts of the policy are left. -/
theorem attempts_eq (policy : RetryPolicy) :
    ([] : List (Except ApiError α)).countP isConflict + 1 + (policy.maxAttempts.toNat - 1) =
      policy.attempts := by
  rw [List.countP_nil, RetryPolicy.attempts]
  omega

/-- Any sequence of answers has a beginning that is settled. -/
theorem exists_settled (policy : RetryPolicy) (replies : Nat → Except ApiError α) :
    ∃ n result, Settled policy ((List.range n).map replies) result := by
  obtain ⟨n, result, h⟩ := exists_settlesAfter [] replies (attempts_eq policy) rfl
  exact ⟨n, result, settled_iff.mpr h⟩

end BlockVolume.Operation
