import BlockVolume.Proofs.Operation.Retry
/-!
What happens between the times a call is made.

A call that fails does not tell its caller the client that it was left with. `Setting.callThrough` is
the same loop with that client as a part of the result. Its exchanges are rounds — a time of the call
and what lies between it and the next — and then the last time of the call.
-/

namespace BlockVolume.Operation

open BlockVolume.Cloud (ApiError Client)
open BlockVolume.Program

variable {α σ : Type} {call : ControlCall α} {setting : Setting} {client next last : Client}
  {conflicts : Nat} {es : List (Exchange Ask.Answer)}

/-! ### The client that is left -/

/-- Makes a call like `Setting.callAgain`, and keeps the client of its last time in any case. -/
def Setting.callThrough (setting : Setting) (call : Api → NodeProgram (Except ApiError α)) :
    (left attempt : Nat) → Client → NodeProgram (Client × Except Problem α)
  | left, attempt, client => do
    match ← setting.callOnce call client with
    | (client, .ok value) => return (client, .ok value)
    | (client, .error e) =>
      if e.errorClass = .conflict then
        match left with
        | 0 => return (client, .error (.ofCall attempt e))
        | left + 1 => do
          (Ask.sleep (setting.policy.backoff attempt)).ask
          let client ← client.refresh setting.source
          callThrough setting call left (attempt + 1) client
      else return (client, .error (.ofCall attempt e))

/-- A call is that loop, with the client of a call that failed dropped. -/
theorem callAgain_eq (setting : Setting) (call : Api → NodeProgram (Except ApiError α))
    (left attempt : Nat) (client : Client) :
    (setting.callAgain call left attempt client).run =
      setting.callThrough call left attempt client >>= fun ended =>
        pure (conclude setting.context ended.1 ended.2) := by
  induction left using Nat.strongRecOn generalizing attempt client with
  | ind left ih =>
  rw [Setting.callAgain, Setting.callThrough, step_lift_bind, bind_assoc]
  refine congrArg (setting.callOnce call client >>= ·) (funext fun answered => ?_)
  obtain ⟨next, e | value⟩ := answered
  · dsimp only
    split
    case isFalse => rfl
    case isTrue =>
      cases left with
      | zero => rfl
      | succ left =>
        dsimp only
        rw [step_lift_bind, bind_assoc]
        refine congrArg (_ >>= ·) (funext fun _ => ?_)
        rw [step_lift_bind, bind_assoc]
        exact congrArg (_ >>= ·) (funext fun again => ih left left.lt_succ_self _ again)
  · rfl

/-- So a run of a call is a run of the loop. -/
theorem course_call {answer : (q : Ask) → σ → Ask.Answer q × σ} {s s' : σ}
    {ms : List (σ × Exchange Ask.Answer)} {outcome : Except OperationError (Client × α)}
    (h : Course answer (setting.call call.make client).run s ms outcome s') :
    ∃ last result, Course answer
        (setting.callThrough call.make (setting.policy.maxAttempts.toNat - 1) 1 client) s ms
        (last, result) s' ∧ outcome = conclude setting.context last result := by
  rw [Setting.call, callAgain_eq] at h
  obtain ⟨before, ⟨last, result⟩, u, after, rfl, through, ended⟩ := course_bind.mp h
  obtain ⟨rfl, rfl, rfl⟩ := course_pure.mp ended
  rw [List.append_nil]
  exact ⟨last, result, through, rfl⟩

/-- The loop makes the call again and again, and its client is that of the last time. -/
theorem retried_of_callThrough {result : Except Problem α} {left : Nat}
    (h : History (setting.callThrough call.make left (conflicts + 1) client) es (last, result)) :
    ∃ answers, Retried setting call conflicts client es answers last := by
  induction left using Nat.strongRecOn generalizing conflicts client es with
  | ind left ih =>
  rw [Setting.callThrough] at h
  obtain ⟨before, ⟨next, reply⟩, after, rfl, hb, ha⟩ := history_bind.mp h
  obtain ⟨first, -, extend⟩ := retried_callOnce conflicts hb
  -- where the loop is over, the last time of the attempt is that of the call
  have ended {value : Except Problem α} (h : History (pure (next, value)) after (last, result)) :
      ∃ answers, Retried setting call conflicts client (before ++ after) answers last := by
    obtain ⟨rfl, same⟩ := history_pure.mp h
    obtain ⟨rfl, rfl⟩ := Prod.mk.inj same
    exact ⟨_, extend (.last conflicts last reply)⟩
  cases reply with
  | ok value => exact ended ha
  | error e =>
    dsimp only at ha
    split at ha
    case isFalse => exact ended ha
    case isTrue busy =>
      cases left with
      | zero => exact ended ha
      | succ left =>
        obtain ⟨_, _, after, rfl, hs, hl⟩ := history_bind.mp ha
        obtain rfl := history_query.mp hs
        obtain ⟨gap, again, rest, rfl, hr, hn⟩ := history_bind.mp hl
        obtain ⟨answers, later⟩ := ih left left.lt_succ_self hn
        have conflict : isConflict (.error e : Except ApiError α) = true := by
          simp [isConflict, busy]
        have times := Retried.paused conflict hr later
        exact ⟨_, extend times⟩

/-! ### Rounds -/

/-- A time of a call that is not the last: the client that makes it, its answer, and what lies between
it and the next time. -/
structure Round (α : Type) where
  client : Client
  reply : Except ApiError α
  between : List (Exchange Ask.Answer)

/-- The exchanges of a round. -/
def Round.exchanges (call : ControlCall α) (round : Round α) : List (Exchange Ask.Answer) :=
  call.exchange round.client.api round.reply :: round.between

/-- The client of the first of some rounds, or of the last time where there are none. -/
def openingClient (rounds : List (Round α)) (last : Client) : Client :=
  (rounds.head?.map Round.client).getD last

/-- The number of rounds that end with a conflict. -/
def conflictsIn (rounds : List (Round α)) : Nat :=
  rounds.countP fun round => isConflict round.reply

/-- The wait that follows an answer which, if it is a conflict, is the conflict of that number. -/
def waitAfter (policy : RetryPolicy) (number : Nat) (reply : Except ApiError α) :
    List (Exchange Ask.Answer) :=
  if isConflict reply then [⟨.sleep (policy.backoff number), ()⟩] else []

/-- Between a time of the call and the next there is the wait that is due, and then one refresh of the
client, which gives the next client. -/
def Round.LeadsTo (setting : Setting) (number : Nat) (next : Client) (round : Round α) : Prop :=
  ∃ gap, round.between = waitAfter setting.policy number round.reply ++ gap ∧
    History (round.client.refresh setting.source) gap next

/-- Each round leads to the next, the conflicts being numbered from the given one on. -/
def Linked (setting : Setting) (conflicts : Nat) (last : Client) (rounds : List (Round α)) : Prop :=
  ∀ earlier round later, rounds = earlier ++ round :: later →
    round.LeadsTo setting (conflicts + conflictsIn earlier + 1) (openingClient later last)

theorem linked_nil : Linked setting conflicts last ([] : List (Round α)) := by
  intro earlier round later split
  simp at split

theorem linked_cons {round : Round α} {rounds : List (Round α)}
    (leads : round.LeadsTo setting (conflicts + 1) (openingClient rounds last))
    (linked : Linked setting (conflicts + conflictsIn [round]) last rounds) :
    Linked setting conflicts last (round :: rounds) := by
  intro earlier other later split
  cases earlier with
  | nil =>
    obtain ⟨rfl, rfl⟩ := List.cons.inj split
    exact leads
  | cons first earlier =>
    obtain ⟨rfl, rfl⟩ := List.cons.inj split
    have next := linked earlier other later rfl
    have sum : conflictsIn (round :: earlier) = conflictsIn [round] + conflictsIn earlier := by
      simp [conflictsIn, List.countP_cons, Nat.add_comm]
    rwa [sum, ← Nat.add_assoc]

/-- The times of a call are rounds that lead from one to the next, and a last time. -/
theorem Retried.rounds {answers : List (Except ApiError α)}
    (h : Retried setting call conflicts client es answers last) :
    ∃ (rounds : List (Round α)) (reply : Except ApiError α),
      es = rounds.flatMap (Round.exchanges call) ++ [call.exchange last.api reply] ∧
        openingClient rounds last = client ∧ Linked setting conflicts last rounds := by
  induction h with
  | last conflicts client reply => exact ⟨[], reply, rfl, rfl, linked_nil⟩
  | @refreshed conflicts client next last reply gap es answers quiet hr _ ih =>
    obtain ⟨rounds, final, rfl, rfl, linked⟩ := ih
    refine ⟨⟨client, reply, gap⟩ :: rounds, final, by simp [Round.exchanges], rfl, ?_⟩
    refine linked_cons ⟨gap, by simp [waitAfter, quiet], hr⟩ ?_
    simpa [conflictsIn, quiet] using linked
  | @paused conflicts client next last reply gap es answers conflict hr _ ih =>
    obtain ⟨rounds, final, rfl, rfl, linked⟩ := ih
    let wait : Exchange Ask.Answer := ⟨.sleep (setting.policy.backoff (conflicts + 1)), ()⟩
    refine ⟨⟨client, reply, wait :: gap⟩ :: rounds, final, by simp [Round.exchanges, wait], rfl, ?_⟩
    refine linked_cons ⟨gap, by simp [waitAfter, conflict, wait], hr⟩ ?_
    simpa [conflictsIn, conflict] using linked

/-- In any surroundings, a call is made in rounds, with the client it was given first. Between a time
and the next there is a wait just if the answer was a conflict — the one of the policy for that
conflict — and then one refresh of the client, and the next time is made with what it gives. Nothing
comes before the first time or after the last, and the client that is left is that of the last. -/
theorem call_in_rounds (answer : (q : Ask) → σ → Ask.Answer q × σ) (s : σ) (setting : Setting)
    (call : ControlCall α) (client : Client) :
    let made := (setting.call call.make client).run
    let through := (setting.callThrough call.make (setting.policy.maxAttempts.toNat - 1) 1
      client).run answer s
    let last := through.1.1
    (made.run answer s).1 = conclude setting.context last through.1.2 ∧
    ∃ (rounds : List (Round α)) (reply : Except ApiError α),
      (made.moments answer s).map Prod.snd =
        rounds.flatMap (Round.exchanges call) ++ [call.exchange last.api reply] ∧
      openingClient rounds last = client ∧
      ∀ earlier round later, rounds = earlier ++ round :: later →
        ∃ gap, round.between =
            waitAfter setting.policy (conflictsIn earlier + 1) round.reply ++ gap ∧
          History (round.client.refresh setting.source) gap (openingClient later last) ∧
          ∀ e ∈ gap, e.question.isCredential = true := by
  intro made through last
  obtain ⟨final, result, course, ended⟩ := course_call (course_self answer made s)
  have left : through.1 = (final, result) := congrArg Prod.fst course.2
  obtain ⟨answers, retried⟩ : ∃ answers, Retried setting call 0 client _ answers final :=
    retried_of_callThrough course.history
  obtain ⟨rounds, reply, exchanges, opening, linked⟩ := retried.rounds
  have same : last = final := congrArg Prod.fst left
  rw [left, same]
  refine ⟨ended, rounds, reply, exchanges, opening, fun earlier round later split => ?_⟩
  obtain ⟨gap, between, refreshed⟩ := linked earlier round later split
  rw [Nat.zero_add] at between
  exact ⟨gap, between, refreshed, Cloud.only_refresh _ _ refreshed⟩

end BlockVolume.Operation
