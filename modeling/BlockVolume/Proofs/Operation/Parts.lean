import BlockVolume.Operation.Device
import BlockVolume.Proofs.Operation.Retry
/-!
What the parts of an operation ask, and what their answers say.

Each part has one lemma for its questions. The looks at the disk are errors but for those that tell
something, so the first that succeeded and the last of a part are known from its outcome.
-/

namespace BlockVolume.Operation

open BlockVolume.Cloud (ApiError Client Disk)
open BlockVolume.Program

variable {α β σ : Type} {setting : Setting} {client next last : Client}
  {es pre post : List (Exchange Ask.Answer)}

/-! ### Calls -/

section Call

variable {call : ControlCall α} {answers : List (Except ApiError α)} {result : Except Problem α}

theorem ControlCall.exchange_inj {api api' : Api} {reply reply' : Except ApiError α}
    (h : call.exchange api reply = call.exchange api' reply') : reply = reply' := by
  cases call <;> simpa [exchange] using (Exchange.mk.inj h).2

/-- Times of a call ask for nothing but it, waits and credentials. -/
theorem Retried.asks {conflicts : Nat} (h : Retried setting call conflicts client es answers last) :
    ∀ e ∈ es, e.question.isCredential ∨ (∃ ms, e.question = .sleep ms) ∨
      ∃ api reply, e = call.exchange api reply := by
  induction h with
  | last conflicts client reply =>
    intro e he
    rw [List.mem_singleton] at he
    exact Or.inr (Or.inr ⟨_, _, he⟩)
  | refreshed _ hr _ ih =>
    intro e he
    rcases List.mem_cons.mp he with rfl | he
    · exact Or.inr (Or.inr ⟨_, _, rfl⟩)
    · rcases List.mem_append.mp he with he | he
      · exact Or.inl (Cloud.only_refresh _ _ hr e he)
      · exact ih e he
  | paused _ hr _ ih =>
    intro e he
    rcases List.mem_cons.mp he with rfl | he
    · exact Or.inr (Or.inr ⟨_, _, rfl⟩)
    · rcases List.mem_cons.mp he with rfl | he
      · exact Or.inr (Or.inl ⟨_, rfl⟩)
      · rcases List.mem_append.mp he with he | he
        · exact Or.inl (Cloud.only_refresh _ _ hr e he)
        · exact ih e he

theorem asks_of_call {outcome : Except OperationError (Client × α)}
    (h : History (setting.call call.make client).run es outcome) :
    ∀ e ∈ es, e.question.isCredential ∨ (∃ ms, e.question = .sleep ms) ∨
      ∃ api reply, e = call.exchange api reply := by
  obtain ⟨_, _, _, hr, -⟩ := retried_of_history [] (attempts_eq setting.policy) rfl h
  exact hr.asks

/-- A call does not reach the host. -/
theorem isHost_of_call {outcome : Except OperationError (Client × α)}
    (h : History (setting.call call.make client).run es outcome) :
    ∀ e ∈ es, e.question.isHost = false := by
  intro e he
  rcases asks_of_call h e he with hk | ⟨ms, hk⟩ | ⟨api, reply, rfl⟩
  · exact Ask.isHost_of_isLooking (Ask.isLooking_of_isCredential hk)
  · rw [hk]
    rfl
  · cases call <;> rfl

/-- What stands before an element has its counterpart before the last one. -/
theorem forall₂_before {R : α → β → Prop} {xs ys : List α} {x : α} {before : List β}
    {last : β} (h : List.Forall₂ R (xs ++ x :: ys) (before ++ [last])) :
    ∀ y ∈ xs, ∃ z ∈ before, R y z := by
  induction xs generalizing before with
  | nil => simp
  | cons y xs ih =>
    cases before with
    | nil =>
      cases h with
      | cons _ h => exact absurd (List.forall₂_nil_right_iff.mp h) (by simp)
    | cons z before =>
      cases h with
      | cons hz h =>
        intro w hw
        rcases List.mem_cons.mp hw with rfl | hw
        · exact ⟨z, List.mem_cons_self, hz⟩
        · obtain ⟨v, hv, hr⟩ := ih h w hw
          exact ⟨v, List.mem_cons_of_mem z hv, hr⟩

/-- No call comes after one that was answered well. -/
theorem ControlCall.Answered.not_mem {api : Api} {reply : Except ApiError α}
    (ha : call.Answered (pre ++ call.exchange api reply :: post) answers)
    (hs : Settled setting.policy answers result) (api' : Api) (value : α) :
    call.exchange api' (.ok value) ∉ pre := by
  intro hp
  obtain ⟨before, last, rfl, failed, -⟩ := Settled.errors hs
  rw [Answered, calls_append, calls_exchange] at ha
  have he : call.exchange api' (.ok value) ∈ calls pre :=
    List.mem_filter.mpr ⟨hp, call.isControl_exchange api' _⟩
  obtain ⟨found, hf, _, heq⟩ := forall₂_before ha _ he
  obtain rfl := call.exchange_inj heq
  exact absurd (failed _ hf) (Option.some_ne_none value)

/-- The answers to a look-up are the looks at the disk. -/
theorem ControlCall.Answered.looks_eq {region disk : String}
    {answers : List (Except ApiError (Option Disk))}
    (h : (ControlCall.describe region disk).Answered es answers) : looks es = answers := by
  rw [← looks_calls]
  rw [Answered] at h
  generalize calls es = times at h
  induction h with
  | nil => rfl
  | @cons e reply _ _ he _ ih =>
    obtain ⟨api, rfl⟩ := he
    exact congrArg (reply :: ·) ih

end Call

/-! ### Looks at the disk -/

section Look

variable {region : String}

/-- What a look-up with the given result ends with. -/
def sought (context : Context) (region : String) :
    Except Problem (Option Disk) → Except OperationError Disk
  | .ok (some disk) => .ok disk
  | .ok none => .error (.failed context (.diskNotFound region))
  | .error problem => .error (.failed context problem)

theorem asks_connect {outcome : Except OperationError Client}
    (h : History setting.connect.run es outcome) : ∀ e ∈ es, e.question.isCredential := by
  have quiet : Only (·.isCredential) setting.connect.run :=
    Only.step_bind (Only.lift (Cloud.only_connect _)) fun found => by
      cases found <;> exact only_pure _
  exact quiet h

theorem only_connect : Only (·.isLooking) setting.connect.run :=
  fun _ _ h e he => Ask.isLooking_of_isCredential (asks_connect h e he)

/-- Getting a client does not find the disk. -/
theorem firstFound_connect {outcome : Except OperationError Client}
    (h : History setting.connect.run es outcome) (fs : List (Exchange Ask.Answer)) :
    firstFound (es ++ fs) = firstFound fs :=
  firstFound_append_of_nil <| looks_eq_nil fun e he =>
    Ask.isControl_of_isCredential (asks_connect h e he)

theorem looks_call {outcome : Except OperationError (Client × Option Disk)}
    (h : History (setting.call (fun api =>
      (CloudAsk.describe api region setting.context.disk).ask) client).run es outcome) :
    (∀ e ∈ es, e.question.isLooking) ∧ ∃ result last, Settled setting.policy (looks es) result ∧
      outcome = conclude setting.context last result := by
  let call := ControlCall.describe region setting.context.disk
  have h : History (setting.call call.make client).run es outcome := h
  obtain ⟨answers, result, last, answered, hs, heq⟩ := settled_of_history call h
  refine ⟨fun e he => ?_, result, last, answered.looks_eq ▸ hs, heq⟩
  rcases asks_of_call h e he with hk | ⟨ms, hk⟩ | ⟨api, reply, rfl⟩
  · exact Ask.isLooking_of_isCredential hk
  · rw [hk]
    rfl
  · rfl

/-- A look-up looks until it is settled what it has found. -/
theorem looks_describe {outcome : Except OperationError (Client × Disk)}
    (h : History (setting.describe region client).run es outcome) :
    (∀ e ∈ es, e.question.isLooking) ∧ ∃ result, Settled setting.policy (looks es) result ∧
      outcome.map Prod.snd = sought setting.context region result := by
  rcases history_step_bind.mp h with ⟨e, hc, rfl⟩ | ⟨before, ⟨next, found⟩, after, rfl, hc, ha⟩
  · obtain ⟨asks, result, last, hs, heq⟩ := looks_call hc
    refine ⟨asks, ?_⟩
    cases result with
    | ok found => cases heq
    | error problem =>
      obtain rfl := Except.error.inj heq
      exact ⟨.error problem, hs, rfl⟩
  · obtain ⟨asks, result, last, hs, heq⟩ := looks_call hc
    cases result with
    | error problem => cases heq
    | ok result =>
      obtain ⟨rfl, rfl⟩ := Prod.mk.inj (Except.ok.inj heq)
      cases found with
      | some disk =>
        obtain ⟨rfl, rfl⟩ := history_step_pure.mp ha
        exact ⟨by simpa using asks, .ok (some disk), by simpa using hs, rfl⟩
      | none =>
        obtain ⟨rfl, rfl⟩ := history_fail.mp ha
        exact ⟨by simpa using asks, .ok none, by simpa using hs, rfl⟩

theorem only_describe : Only (·.isLooking) (setting.describe region client).run :=
  fun _ _ h => (looks_describe h).1

/-- What a look-up has found was the answer to its last look, and to no look before. -/
theorem looks_describe_ok {disk : Disk}
    (h : History (setting.describe region client).run es (.ok (next, disk))) :
    ∃ before, looks es = before ++ [.ok (some disk)] ∧
      ∀ reply ∈ before, reply.toOption = none := by
  obtain ⟨-, result, hs, heq⟩ := looks_describe h
  match result, heq with
  | .ok (some _), heq =>
    obtain rfl := Except.ok.inj heq
    exact hs.of_ok

/-- A look-up whose looks are all answered well takes the answer of one of them. -/
theorem sought_describe {outcome : Except OperationError (Client × Disk)}
    (h : History (setting.describe region client).run es outcome)
    (well : ∀ look ∈ looks es, ∃ found, look = .ok found) :
    ∃ found, .ok found ∈ looks es ∧
      outcome.map Prod.snd = sought setting.context region (.ok found) := by
  obtain ⟨-, result, hs, heq⟩ := looks_describe h
  obtain ⟨before, last, split, -, hl⟩ := hs.errors
  have hm : last ∈ looks es := by simp [split]
  obtain ⟨found, rfl⟩ := well last hm
  cases result with
  | error problem => cases hl
  | ok value =>
    obtain rfl := Option.some.inj hl
    exact ⟨found, hm, heq⟩

theorem firstFound_describe {disk : Disk}
    (h : History (setting.describe region client).run es (.ok (next, disk))) :
    firstFound es = some (some disk) := by
  obtain ⟨before, hl, failed⟩ := looks_describe_ok h
  rw [firstFound, hl, List.findSome?_append, List.findSome?_eq_none_iff.mpr failed]
  rfl

/-- The disk that was watched has settled by the last look. -/
theorem looks_watch {expected : String} {settled : Disk → Bool} {left attempt : Nat}
    {outcome : Except OperationError (Client × Disk)}
    (h : History (setting.watch region expected settled left attempt client).run es outcome) :
    (∀ e ∈ es, e.question.isLooking) ∧ ∀ next disk, outcome = .ok (next, disk) →
      settled disk = true ∧ (looks es).getLast? = some (.ok (some disk)) := by
  induction left generalizing attempt client es with
  | zero =>
    obtain ⟨rfl, rfl⟩ := history_fail.mp h
    simp
  | succ left ih =>
    rcases history_step_bind.mp h with ⟨e, hd, rfl⟩ | ⟨before, ⟨next, disk⟩, after, rfl, hd, ha⟩
    · exact ⟨(looks_describe hd).1, fun _ _ heq => by cases heq⟩
    · have asks := (looks_describe hd).1
      dsimp only at ha
      split at ha
      case isTrue hs =>
        obtain ⟨rfl, rfl⟩ := history_step_pure.mp ha
        obtain ⟨failed, hl, -⟩ := looks_describe_ok hd
        refine ⟨by simpa using asks, fun next disk heq => ?_⟩
        obtain ⟨rfl, rfl⟩ := Prod.mk.inj (Except.ok.inj heq)
        exact ⟨hs, by simp [hl]⟩
      case isFalse =>
        have later : ∃ pause rest, after = pause ++ rest ∧ (∀ e ∈ pause, e.question.isLooking) ∧
            History (setting.watch region expected settled left (attempt + 1) next).run rest
              outcome := by
          split at ha
          · obtain ⟨pause, _, rest, rfl, hp, hw⟩ := history_step_lift_bind.mp ha
            obtain rfl := history_query.mp hp
            exact ⟨_, rest, rfl, by simp [Ask.isLooking], hw⟩
          · exact ⟨[], after, rfl, by simp, ha⟩
        obtain ⟨pause, rest, rfl, quiet, hw⟩ := later
        obtain ⟨watched, last⟩ := ih hw
        refine ⟨List.forall_mem_append.mpr ⟨asks, List.forall_mem_append.mpr ⟨quiet, watched⟩⟩,
          fun next disk heq => ?_⟩
        obtain ⟨hs, hl⟩ := last next disk heq
        exact ⟨hs, by simp [List.getLast?_append, hl]⟩

theorem only_waitFor {expected : String} {settled : Disk → Bool} :
    Only (·.isLooking) (setting.waitFor region expected settled client).run :=
  fun _ _ h => (looks_watch h).1

end Look

/-! ### Courses of the parts -/

section Course

variable {answer : (q : Ask) → σ → Ask.Answer q × σ} {s s' : σ} {ms : List (σ × Exchange Ask.Answer)}

theorem asked_connect {outcome : Except OperationError Client}
    (h : Course answer setting.connect.run s ms outcome s') : Asked (·.isLooking) ms :=
  (asked_of_history (asks_connect h.history)).imp fun _ => Ask.isLooking_of_isCredential

/-- Where credentials serve, there is a client to begin with. -/
theorem course_connect {outcome : Except OperationError Client}
    (h : Course answer setting.connect.run s ms outcome s')
    (serve : ((Client.connect setting.source).run answer s).1.isSome = true) :
    ∃ client, outcome = .ok client := by
  obtain ⟨before, found, u, after, rfl, hc, hf⟩ := course_step_lift_bind.mp h
  rw [hc.2] at serve
  cases found with
  | none => cases serve
  | some client => exact ⟨client, (course_pure.mp hf).2.1⟩

theorem asked_watch {region expected : String} {settled : Disk → Bool}
    {outcome : Except OperationError (Client × Disk)}
    (h : Course answer (setting.waitFor region expected settled client).run s ms outcome s') :
    Asked (·.isLooking) ms :=
  asked_of_history (looks_watch h.history).1

/-- Where every look is answered in some way, whenever it is made, all looks of a run are. -/
theorem forall_looks {p : NodeProgram α} {result : α} {good : Except ApiError (Option Disk) → Prop}
    (h : Course answer p s ms result s')
    (answers : ∀ api region disk s, good (answer (.cloud (.describe api region disk)) s).1) :
    ∀ look ∈ looks (ms.map Prod.snd), good look := by
  intro look hl
  obtain ⟨e, he, seen⟩ := List.mem_filterMap.mp hl
  obtain ⟨⟨moment, e⟩, hm, rfl⟩ := List.mem_map.mp he
  have answered := h.answered _ hm
  dsimp only at seen answered
  rw [look?.eq_def] at seen
  split at seen
  case h_1 api region disk reply =>
    obtain rfl := Option.some.inj seen
    have reply_eq : (answer (.cloud (.describe api region disk)) moment).1 = reply := answered
    exact reply_eq ▸ answers api region disk moment
  case h_2 => cases seen

theorem course_fail {problem : Problem} {outcome : Except OperationError α} :
    Course answer (ExceptT.run (setting.fail problem : Step α)) s ms outcome s' ↔
      ms = [] ∧ outcome = .error (.failed setting.context problem) ∧ s' = s :=
  course_pure

/-- An operation goes on with the mounter's answer, or ends with its error. -/
theorem course_onHost_bind {doing : String} {reply : Except Mount.MountError β}
    {f : β → Step α} {outcome : Except OperationError α} :
    Course answer (ExceptT.run (setting.onHost doing reply >>= f)) s ms outcome s' ↔
      (∃ e, reply = .error e ∧ ms = [] ∧
        outcome = .error (.failed setting.context (.host doing e)) ∧ s' = s) ∨
      ∃ value, reply = .ok value ∧ Course answer (f value).run s ms outcome s' := by
  cases reply with
  | error e =>
    change Course answer (ExceptT.run (setting.fail (.host doing e) : Step α)) s ms outcome s' ↔ _
    rw [course_fail]
    simp
  | ok value =>
    change Course answer (f value).run s ms outcome s' ↔ _
    simp

end Course
end BlockVolume.Operation
