import BlockVolume.Proofs.Operation.Verdict
import BlockVolume.Proofs.Questions
import Mathlib.Data.List.Forall2
/-!
Calls to the control plane that are made again.

`Retried` spells the exchanges of a call out, with its answers. Where the answers are settled they
are a history of the call, and there are no other histories — for every policy, and whatever happens
when the client is refreshed in between.
-/

namespace BlockVolume.Operation

open BlockVolume.Cloud (ApiError Client CredentialSource Disk ErrorClass)
open BlockVolume.Program

/-! ### Calls -/

/-- A call to the control plane, by the type of its value. -/
inductive ControlCall : Type → Type where
  | describe (region disk : String) : ControlCall (Option Disk)
  | attach (disk node : String) : ControlCall Unit
  | detach (disk node : String) : ControlCall Unit

namespace ControlCall

variable {α : Type}

/-- Makes the call with a client. -/
def make : ControlCall α → Api → NodeProgram (Except ApiError α)
  | .describe region disk, api => (CloudAsk.describe api region disk).ask
  | .attach disk node, api => (CloudAsk.attach api disk node).ask
  | .detach disk node, api => (CloudAsk.detach api disk node).ask

/-- The call with its answer. -/
def exchange : ControlCall α → Api → Except ApiError α → Exchange Ask.Answer
  | .describe region disk, api, reply => ⟨.cloud (.describe api region disk), reply⟩
  | .attach disk node, api, reply => ⟨.cloud (.attach api disk node), reply⟩
  | .detach disk node, api, reply => ⟨.cloud (.detach api disk node), reply⟩

/-- The calls among some exchanges are all this one, with the given answers in turn. -/
def Answered (call : ControlCall α) (es : List (Exchange Ask.Answer))
    (answers : List (Except ApiError α)) : Prop :=
  List.Forall₂ (fun e reply => ∃ api, e = call.exchange api reply) (calls es) answers

theorem isControl_exchange (call : ControlCall α) (api : Api) (reply : Except ApiError α) :
    (call.exchange api reply).question.isControl = true := by
  cases call <;> rfl

theorem calls_exchange (call : ControlCall α) (api : Api) (reply : Except ApiError α)
    (es : List (Exchange Ask.Answer)) :
    calls (call.exchange api reply :: es) = call.exchange api reply :: calls es :=
  List.filter_cons_of_pos (call.isControl_exchange api reply)

theorem history_make {call : ControlCall α} {api : Api} {reply : Except ApiError α}
    {es : List (Exchange Ask.Answer)} :
    History (call.make api) es reply ↔ es = [call.exchange api reply] := by
  cases call <;> exact history_query

end ControlCall

/-! ### The exchanges of a call -/

section Run

variable {α : Type} {call : ControlCall α} {setting : Setting} {client next last : Client}
  {es gap : List (Exchange Ask.Answer)}

/-- The exchanges of a call that is made again and again after `conflicts` conflicts, with its
answers and the client of its last time. Between two times the client is refreshed, and after a
conflict a wait comes first, as long as the policy says for that conflict. -/
inductive Retried (setting : Setting) (call : ControlCall α) : (conflicts : Nat) → Client →
    List (Exchange Ask.Answer) → List (Except ApiError α) → Client → Prop where
  | last (conflicts : Nat) (client : Client) (reply : Except ApiError α) :
      Retried setting call conflicts client [call.exchange client.api reply] [reply] client
  | refreshed {conflicts : Nat} {client next last : Client} {reply : Except ApiError α}
      {gap es : List (Exchange Ask.Answer)} {answers : List (Except ApiError α)} :
      isConflict reply = false → History (client.refresh setting.source) gap next →
        Retried setting call conflicts next es answers last →
          Retried setting call conflicts client (call.exchange client.api reply :: (gap ++ es))
            (reply :: answers) last
  | paused {conflicts : Nat} {client next last : Client} {reply : Except ApiError α}
      {gap es : List (Exchange Ask.Answer)} {answers : List (Except ApiError α)} :
      isConflict reply = true → History (client.refresh setting.source) gap next →
        Retried setting call (conflicts + 1) next es answers last →
          Retried setting call conflicts client
            (call.exchange client.api reply ::
              ⟨.sleep (setting.policy.backoff (conflicts + 1)), ()⟩ :: (gap ++ es))
            (reply :: answers) last

/-- What a call with the given result ends with. -/
def conclude (context : Context) (last : Client) (result : Except Problem α) :
    Except OperationError (Client × α) :=
  match result with
  | .ok value => .ok (last, value)
  | .error problem => .error (.failed context problem)

theorem calls_refresh (h : History (client.refresh setting.source) gap next) : calls gap = [] :=
  calls_eq_nil fun e he => Ask.isControl_of_isCredential (Cloud.only_refresh _ _ h e he)

theorem Retried.answered {conflicts : Nat} {answers : List (Except ApiError α)}
    (h : Retried setting call conflicts client es answers last) : call.Answered es answers := by
  induction h with
  | last conflicts client reply =>
    rw [ControlCall.Answered, ControlCall.calls_exchange, calls_nil]
    exact .cons ⟨_, rfl⟩ .nil
  | refreshed _ hr _ ih =>
    rw [ControlCall.Answered, ControlCall.calls_exchange, calls_append, calls_refresh hr]
    exact .cons ⟨_, rfl⟩ ih
  | paused _ hr _ ih =>
    rw [ControlCall.Answered, ControlCall.calls_exchange, calls_sleep, calls_append, calls_refresh hr]
    exact .cons ⟨_, rfl⟩ ih

theorem Retried.ne_nil {conflicts : Nat} {answers : List (Except ApiError α)}
    (h : Retried setting call conflicts client es answers last) : answers ≠ [] := by
  cases h <;> simp

theorem history_fail {problem : Problem} {outcome : Except OperationError α} :
    History (ExceptT.run (setting.fail problem : Step α)) es outcome ↔
      es = [] ∧ outcome = .error (.failed setting.context problem) :=
  history_step_throw

theorem history_callOnce {reply : Except ApiError α} :
    History (setting.callOnce call.make client) es (next, reply) ↔
      (es = [call.exchange client.api reply] ∧ next = client ∧ blamesClient reply = false) ∨
        ∃ (e : ApiError) (gap : List (Exchange Ask.Answer)), e.errorClass.blamesClient = true ∧
          History (client.refresh setting.source) gap next ∧
            es = call.exchange client.api (.error e) :: (gap ++ [call.exchange next.api reply]) := by
  rw [Setting.callOnce, history_bind]
  constructor
  · rintro ⟨before, answer, after, rfl, hm, h⟩
    obtain rfl := ControlCall.history_make.mp hm
    cases answer with
    | ok value =>
      obtain ⟨rfl, heq⟩ := history_pure.mp h
      obtain ⟨rfl, rfl⟩ := Prod.mk.inj heq
      exact Or.inl ⟨rfl, rfl, rfl⟩
    | error e =>
      dsimp only at h
      split at h
      case isTrue he =>
        obtain ⟨gap, fresh, _, rfl, hr, hl⟩ := history_bind.mp h
        obtain ⟨_, again, _, rfl, hm, hp⟩ := history_bind.mp hl
        obtain rfl := ControlCall.history_make.mp hm
        obtain ⟨rfl, heq⟩ := history_pure.mp hp
        obtain ⟨rfl, rfl⟩ := Prod.mk.inj heq
        exact Or.inr ⟨e, gap, he, hr, by simp⟩
      case isFalse he =>
        obtain ⟨rfl, heq⟩ := history_pure.mp h
        obtain ⟨rfl, rfl⟩ := Prod.mk.inj heq
        exact Or.inl ⟨rfl, rfl, by simpa [blamesClient] using he⟩
  · rintro (⟨rfl, rfl, hb⟩ | ⟨e, gap, he, hr, rfl⟩)
    · refine ⟨_, reply, [], by simp, ControlCall.history_make.mpr rfl, ?_⟩
      cases reply with
      | ok value => exact history_pure.mpr ⟨rfl, rfl⟩
      | error e =>
        have he : ¬e.errorClass.blamesClient = true := by simpa [blamesClient] using hb
        simpa only [if_neg he] using history_pure.mpr ⟨rfl, rfl⟩
    · refine ⟨_, .error e, _, rfl, ControlCall.history_make.mpr rfl, ?_⟩
      simp only [if_pos he]
      refine history_bind.mpr ⟨gap, next, _, rfl, hr, ?_⟩
      exact history_bind.mpr
        ⟨_, reply, [], by simp, ControlCall.history_make.mpr rfl, history_pure.mpr ⟨rfl, rfl⟩⟩

/-- One attempt makes the call once or twice, and what follows goes on from its last time. -/
theorem retried_callOnce {reply : Except ApiError α} {before : List (Exchange Ask.Answer)}
    (conflicts : Nat) (h : History (setting.callOnce call.make client) before (next, reply)) :
    ∃ first, OneAttempt first reply ∧ ∀ {es answers last},
      Retried setting call conflicts next (call.exchange next.api reply :: es) (reply :: answers)
          last →
        Retried setting call conflicts client (before ++ es) (first ++ reply :: answers) last := by
  rcases history_callOnce.mp h with ⟨rfl, rfl, hb⟩ | ⟨e, gap, he, hr, rfl⟩
  · exact ⟨[], Or.inl ⟨rfl, hb⟩, fun h => h⟩
  · refine ⟨[.error e], Or.inr ⟨e, rfl, he⟩, fun h => ?_⟩
    have quiet : isConflict (.error e : Except ApiError α) = false := by
      cases hc : e.errorClass <;> simp_all [isConflict, ErrorClass.blamesClient]
    simpa using Retried.refreshed quiet hr h

/-- A call is an attempt, after which it is over — or, after a conflict, a wait, a fresh client and
the attempts that are left. -/
theorem history_callAgain {outcome : Except OperationError (Client × α)} {left attempt : Nat} :
    History (setting.callAgain call.make left attempt client).run es outcome ↔
      ∃ before next reply after, es = before ++ after ∧
        History (setting.callOnce call.make client) before (next, reply) ∧
          ((∃ result, lastVerdict left attempt reply = some result ∧ after = [] ∧
              outcome = conclude setting.context next result) ∨
            ∃ left' gap again rest, isConflict reply = true ∧ left = left' + 1 ∧
              after = ⟨.sleep (setting.policy.backoff attempt), ()⟩ :: (gap ++ rest) ∧
                History (next.refresh setting.source) gap again ∧
                  History (setting.callAgain call.make left' (attempt + 1) again).run rest
                    outcome) := by
  rw [Setting.callAgain, history_step_lift_bind]
  constructor
  · rintro ⟨before, ⟨next, reply⟩, after, rfl, hb, ha⟩
    refine ⟨before, next, reply, after, rfl, hb, ?_⟩
    cases reply with
    | ok value =>
      obtain ⟨rfl, rfl⟩ := history_step_pure.mp ha
      exact Or.inl ⟨.ok value, rfl, rfl, rfl⟩
    | error e =>
      dsimp only at ha
      split at ha
      case isFalse hc =>
        obtain ⟨rfl, rfl⟩ := history_fail.mp ha
        exact Or.inl ⟨_, if_neg fun h => hc h.1, rfl, rfl⟩
      case isTrue hc =>
        cases left with
        | zero =>
          obtain ⟨rfl, rfl⟩ := history_fail.mp ha
          exact Or.inl ⟨_, if_neg fun h => Nat.not_lt_zero _ h.2, rfl, rfl⟩
        | succ left =>
          obtain ⟨_, _, after, rfl, hs, hl⟩ := history_step_lift_bind.mp ha
          obtain rfl := history_query.mp hs
          obtain ⟨gap, again, rest, rfl, hr, hn⟩ := history_step_lift_bind.mp hl
          exact Or.inr ⟨left, gap, again, rest, by simp [isConflict, hc], rfl, rfl, hr, hn⟩
  · rintro ⟨before, next, reply, after, rfl, hb, h⟩
    refine ⟨before, (next, reply), after, rfl, hb, ?_⟩
    cases reply with
    | ok value =>
      rcases h with ⟨result, hv, rfl, rfl⟩ | ⟨_, _, _, _, hc, -⟩
      · obtain rfl := Option.some.inj hv
        exact history_step_pure.mpr ⟨rfl, rfl⟩
      · simp [isConflict] at hc
    | error e =>
      rcases h with ⟨result, hv, rfl, rfl⟩ | ⟨left, gap, again, rest, hc, rfl, rfl, hr, ha⟩
      · obtain ⟨final, heq⟩ := Option.ite_none_left_eq_some.mp hv
        obtain rfl := Option.some.inj heq
        dsimp only
        split
        case isFalse => exact history_fail.mpr ⟨rfl, rfl⟩
        case isTrue hc =>
          cases left with
          | zero => exact history_fail.mpr ⟨rfl, rfl⟩
          | succ left => exact absurd ⟨hc, Nat.succ_pos _⟩ final
      · have hc : e.errorClass = .conflict := by simpa [isConflict] using hc
        simp only [if_pos hc]
        refine history_step_lift_bind.mpr ⟨[_], (), _, rfl, history_query.mpr rfl, ?_⟩
        exact history_step_lift_bind.mpr ⟨gap, again, rest, rfl, hr, ha⟩

/-- The histories of a call are its times, with the result that the answers settle. -/
theorem retried_of_history (past : List (Except ApiError α)) {left : Nat}
    {outcome : Except OperationError (Client × α)}
    (granted : past.countP isConflict + 1 + left = setting.policy.attempts)
    (fresh : past.getLast?.any blamesClient = false)
    (h : History (setting.callAgain call.make left (past.countP isConflict + 1) client).run es
      outcome) :
    ∃ answers result last, Retried setting call (past.countP isConflict) client es answers last ∧
      SettlesAfter setting.policy past answers result ∧
        outcome = conclude setting.context last result := by
  induction left using Nat.strongRecOn generalizing past client es with
  | ind left ih =>
  obtain ⟨before, next, reply, after, rfl, hb, h⟩ := history_callAgain.mp h
  obtain ⟨first, one, extend⟩ := retried_callOnce (past.countP isConflict) hb
  rcases h with ⟨result, hv, rfl, rfl⟩ | ⟨left, gap, again, rest, hc, rfl, rfl, hr, h⟩
  · refine ⟨first ++ [reply], result, next, extend (.last _ _ _), ?_, rfl⟩
    rw [one.settlesAfter_iff granted fresh, hv]
    exact ⟨rfl, rfl⟩
  · have count := one.countP_conflict past hc
    rw [← count] at h
    obtain ⟨answers, result, last, hn, hs, rfl⟩ :=
      ih left (Nat.lt_succ_self left) _ (by omega) (by simp [blamesClient_of_isConflict hc]) h
    rw [count] at hn
    refine ⟨first ++ reply :: answers, result, last, extend (.paused hc hr hn), ?_, rfl⟩
    rw [one.settlesAfter_iff granted fresh, lastVerdict_eq_none.mpr ⟨hc, Nat.succ_ne_zero left⟩]
    exact hs

/-- Times of a call whose answers are settled begin with an attempt; after it they are over, or they
go on after a conflict. -/
theorem Retried.attempt {past answers : List (Except ApiError α)} {result : Except Problem α}
    {conflicts : Nat} (fresh : past.getLast?.any blamesClient = false)
    (h : Retried setting call conflicts client es answers last)
    (hs : SettlesAfter setting.policy past answers result) :
    ∃ before next first reply rest after, OneAttempt first reply ∧
      answers = first ++ reply :: rest ∧ es = before ++ after ∧
        History (setting.callOnce call.make client) before (next, reply) ∧
          ((rest = [] ∧ after = [] ∧ last = next) ∨
            ∃ gap again tail, isConflict reply = true ∧
              after = ⟨.sleep (setting.policy.backoff (conflicts + 1)), ()⟩ :: (gap ++ tail) ∧
                History (next.refresh setting.source) gap again ∧
                  Retried setting call (conflicts + 1) again tail rest last) := by
  cases h with
  | last _ _ reply =>
    have hb : blamesClient reply = false := by
      cases hb : blamesClient reply with
      | false => rfl
      | true => simp [SettlesAfter, verdict_of_blamesClient hb fresh] at hs
    exact ⟨_, client, [], reply, [], [], Or.inl ⟨rfl, hb⟩, rfl, (List.append_nil _).symm,
      history_callOnce.mpr (Or.inl ⟨rfl, rfl, hb⟩), Or.inl ⟨rfl, rfl, rfl⟩⟩
  | @paused _ _ again _ reply gap tail rest hc hr h =>
    have hb := blamesClient_of_isConflict hc
    exact ⟨[_], client, [], reply, rest, _, Or.inl ⟨rfl, hb⟩, rfl, rfl,
      history_callOnce.mpr (Or.inl ⟨rfl, rfl, hb⟩), Or.inr ⟨gap, again, tail, hc, rfl, hr, h⟩⟩
  | @refreshed _ _ fresh' _ reply gap _ rest hc hr h =>
    obtain ⟨hb, -, hs'⟩ := hs.absorbed h.ne_nil hc
    obtain ⟨e, rfl, he⟩ := blamesClient_eq_true.mp hb
    have one {last : Except ApiError α} : OneAttempt [.error e] last := Or.inr ⟨e, rfl, he⟩
    cases h with
    | last _ _ reply =>
      exact ⟨_, _, [_], reply, [], [], one, rfl, (List.append_nil _).symm,
        history_callOnce.mpr (Or.inr ⟨e, gap, he, hr, rfl⟩), Or.inl ⟨rfl, rfl, rfl⟩⟩
    | @paused _ _ again _ reply pause tail rest hc hr' h =>
      exact ⟨_ :: (gap ++ [_]), fresh', [_], reply, rest, _, one, rfl, by simp,
        history_callOnce.mpr (Or.inr ⟨e, gap, he, hr, rfl⟩),
        Or.inr ⟨pause, again, tail, hc, rfl, hr', h⟩⟩
    | refreshed hc _ h =>
      -- the client is not to blame twice in a row
      obtain ⟨-, first, -⟩ := hs'.absorbed h.ne_nil hc
      simp [hb] at first

/-- Times of a call whose answers are settled are a history of it. -/
theorem history_of_retried (past : List (Except ApiError α)) {answers : List (Except ApiError α)}
    {result : Except Problem α} {left : Nat}
    (granted : past.countP isConflict + 1 + left = setting.policy.attempts)
    (fresh : past.getLast?.any blamesClient = false)
    (h : Retried setting call (past.countP isConflict) client es answers last)
    (hs : SettlesAfter setting.policy past answers result) :
    History (setting.callAgain call.make left (past.countP isConflict + 1) client).run es
      (conclude setting.context last result) := by
  induction left using Nat.strongRecOn generalizing past client es answers with
  | ind left ih =>
  obtain ⟨before, next, first, reply, rest, after, one, rfl, rfl, hb, h⟩ := h.attempt fresh hs
  rw [one.settlesAfter_iff granted fresh] at hs
  refine history_callAgain.mpr ⟨before, next, reply, after, rfl, hb, ?_⟩
  cases hv : lastVerdict left (past.countP isConflict + 1) reply with
  | some found =>
    rw [hv] at hs
    obtain ⟨rfl, rfl⟩ := hs
    rcases h with ⟨-, rfl, rfl⟩ | ⟨_, _, _, -, -, -, h⟩
    · exact Or.inl ⟨result, rfl, rfl, rfl⟩
    · exact absurd rfl h.ne_nil
  | none =>
    rw [hv] at hs
    rcases h with ⟨rfl, -⟩ | ⟨gap, again, tail, hc, rfl, hr, h⟩
    · exact hs.elim
    · obtain ⟨left, rfl⟩ := Nat.exists_eq_succ_of_ne_zero (lastVerdict_eq_none.mp hv).2
      have count := one.countP_conflict past hc
      rw [← count] at h
      have later := ih left (Nat.lt_succ_self left) _ (by omega)
        (by simp [blamesClient_of_isConflict hc]) h hs
      rw [count] at later
      exact Or.inr ⟨left, gap, again, tail, hc, rfl, rfl, hr, later⟩

theorem settled_of_history (call : ControlCall α) {outcome : Except OperationError (Client × α)}
    (h : History (setting.call call.make client).run es outcome) :
    ∃ answers result last, call.Answered es answers ∧ Settled setting.policy answers result ∧
      outcome = conclude setting.context last result := by
  obtain ⟨answers, result, last, hr, hs, heq⟩ :=
    retried_of_history [] (attempts_eq setting.policy) rfl h
  exact ⟨answers, result, last, hr.answered, settled_iff.mpr hs, heq⟩

/-- Any answers can be those of a call that is made again and again. -/
theorem exists_retried (setting : Setting) (call : ControlCall α) (conflicts : Nat)
    (client : Client) {answers : List (Except ApiError α)} (h : answers ≠ []) :
    ∃ es last, Retried setting call conflicts client es answers last := by
  induction answers generalizing conflicts client with
  | nil => exact absurd rfl h
  | cons reply rest ih =>
    rcases rest with _ | ⟨second, rest⟩
    · exact ⟨_, client, .last conflicts client reply⟩
    · obtain ⟨gap, next, hr⟩ := exists_history (client.refresh setting.source)
      cases hc : isConflict reply with
      | true =>
        obtain ⟨es, last, hn⟩ := ih (conflicts + 1) next (List.cons_ne_nil _ _)
        exact ⟨_, last, .paused hc hr hn⟩
      | false =>
        obtain ⟨es, last, hn⟩ := ih conflicts next (List.cons_ne_nil _ _)
        exact ⟨_, last, .refreshed hc hr hn⟩

theorem history_of_settled {answers : List (Except ApiError α)} {result : Except Problem α}
    (h : Settled setting.policy answers result) :
    ∃ es last, call.Answered es answers ∧
      History (setting.call call.make client).run es (conclude setting.context last result) := by
  obtain ⟨before, final, rfl, -⟩ := id h
  obtain ⟨es, last, hr⟩ := exists_retried setting call 0 client
    (List.append_ne_nil_of_right_ne_nil before (List.cons_ne_nil final []))
  exact ⟨es, last, hr.answered,
    history_of_retried [] (attempts_eq setting.policy) rfl hr (settled_iff.mp h)⟩

/-- A call ends at the first answer that is final, with what that answer comes to. All answers that
end so are those of some history, and any sequence of answers has a beginning that ends so. -/
theorem call_settles (setting : Setting) (call : ControlCall α) (client : Client) :
    (∀ es outcome, History (setting.call call.make client).run es outcome →
      ∃ answers result last, call.Answered es answers ∧ Settled setting.policy answers result ∧
        outcome = conclude setting.context last result) ∧
    (∀ answers result, Settled setting.policy answers result →
      ∃ es last, call.Answered es answers ∧
        History (setting.call call.make client).run es (conclude setting.context last result)) ∧
    ∀ replies : Nat → Except ApiError α, ∃ n result,
      Settled setting.policy ((List.range n).map replies) result :=
  ⟨fun _ _ => settled_of_history call, fun _ _ => history_of_settled, exists_settled setting.policy⟩

end Run
end BlockVolume.Operation
