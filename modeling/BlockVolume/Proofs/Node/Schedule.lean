import BlockVolume.Node.Schedule
import BlockVolume.Proofs.Node.Traffic
/-!
Tasks that take turns are calls under way.

A turn of a task is a number of moves of its call, and what else a schedule does is to let time pass,
or to give a call up. So whatever holds after any moves of calls holds of the schedule that is run.
The clock of a schedule is set to the time of what is due next; it never goes back, for agendas are in
the order of time.
-/

namespace BlockVolume.Node

variable {σ μ ι α : Type} {program : ι → NodeProgram α} {cloud : CloudModel σ}
  {mounter : MounterModel μ}

/-! ### Agendas -/

namespace Agenda

variable {agenda : Agenda} {now later : Nat}

/-- What is due stands in the order of time, and none of it is past. -/
structure Ahead (now : Nat) (agenda : Agenda) : Prop where
  ordered : agenda.Pairwise fun first second => first.1 ≤ second.1
  future : ∀ entry ∈ agenda, now ≤ entry.1

theorem mem_put {ms : Nat} {due : Due} {entry : Nat × Due} :
    entry ∈ agenda.put ms due ↔ entry = (ms, due) ∨ entry ∈ agenda := by
  induction agenda with
  | nil => simp [put]
  | cons first rest ih =>
    rw [put]
    split
    · simp only [List.mem_cons, ih]
      tauto
    · simp

theorem Ahead.put {ms : Nat} (h : agenda.Ahead now) (later : now ≤ ms) (due : Due) :
    (agenda.put ms due).Ahead now := by
  refine ⟨?_, fun entry he => ?_⟩
  · have ordered := h.ordered
    clear h
    induction agenda with
    | nil => simp [Agenda.put]
    | cons first rest ih =>
      obtain ⟨least, ordered⟩ := List.pairwise_cons.mp ordered
      rw [Agenda.put]
      split
      case isTrue before =>
        refine List.pairwise_cons.mpr ⟨fun entry he => ?_, ih ordered⟩
        rcases mem_put.mp he with rfl | he
        · exact before
        · exact least entry he
      case isFalse after =>
        refine List.pairwise_cons.mpr ⟨fun entry he => ?_, List.pairwise_cons.mpr ⟨least, ordered⟩⟩
        rcases List.mem_cons.mp he with rfl | he
        · omega
        · have := least entry he
          omega
  · rcases mem_put.mp he with rfl | he
    · exact later
    · exact h.future entry he

theorem Ahead.putTurn (h : agenda.Ahead now) (task : Nat) : (agenda.putTurn now task).Ahead now := by
  rw [Agenda.putTurn]
  split
  · exact h
  · exact h.put (Nat.le_refl now) _

/-- The turns of several tasks are put down. -/
theorem Ahead.putTurns {β : Type} (h : agenda.Ahead now) (task : β → Nat) (xs : List β) :
    (xs.foldl (fun agenda x => agenda.putTurn now (task x)) agenda).Ahead now := by
  induction xs generalizing agenda with
  | nil => exact h
  | cons x rest ih => exact ih (h.putTurn (task x))

theorem Ahead.filter (h : agenda.Ahead now) (keep : Nat × Due → Bool) :
    Ahead now (agenda.filter keep) :=
  ⟨h.ordered.filter keep, fun entry he => h.future entry (List.mem_of_mem_filter he)⟩

/-- Once the first is due, the others are still to come. -/
theorem Ahead.tail {ms : Nat} {due : Due} (h : Ahead now ((ms, due) :: agenda)) :
    agenda.Ahead ms := by
  obtain ⟨least, ordered⟩ := List.pairwise_cons.mp h.ordered
  exact ⟨ordered, least⟩

end Agenda

/-! ### One turn -/

namespace World

theorem now_answer (cloud : CloudModel σ) (mounter : MounterModel μ) (number : Nat) (question : Ask)
    (world : World σ μ) : (world.answer cloud mounter number question).2.2.now = world.now := by
  cases question with
  | cloud question =>
    cases question with
    | client credentials =>
      simp only [answer, answerCloud]
      split <;> rfl
    | _ => rfl
  | tree question => cases question <;> rfl
  | _ => rfl

/-- A call that waits for nothing has nothing to notice. -/
theorem polled_of_free {world : World σ μ} {number : Nat} (free : world.isWaiting number = false) :
    world.polled number = world := by
  have same : world.locks.poll number = world.locks := by
    have kept : world.locks.claims.map (fun claim =>
        if claim.name = number ∧ claim.standing = .chosen then { claim with standing := .held }
        else claim) = world.locks.claims := by
      refine (List.map_congr_left fun claim hc => ?_).trans (List.map_id _)
      refine if_neg fun chosen => ?_
      rw [isWaiting, List.any_eq_false] at free
      refine free claim (List.mem_filter.mpr ⟨hc, ?_⟩) (by simpa using chosen.1)
      simp [chosen.2]
    rw [Lock.Table.poll, kept]
  rw [polled, same]

/-- Nothing passes in a turn, and what is put down is still to come. -/
theorem now_goOn (cloud : CloudModel σ) (mounter : MounterModel μ) (task left : Nat)
    (program : NodeProgram α) (world : World σ μ) :
    (world.goOn cloud mounter task left program).2.2.now = world.now ∧
      ∀ ms, (world.goOn cloud mounter task left program).2.1 = some ms → world.now ≤ ms := by
  have kept {question : Ask} {world after : World σ μ} {reply : question.Answer} {wait : Option Nat}
      (answered : world.answer cloud mounter task question = (reply, wait, after)) :
      after.now = world.now := by
    rw [← now_answer cloud mounter task question world, answered]
  induction left, program, world using World.goOn.induct cloud mounter task with
  | case1 left result world => simp [goOn]
  | case2 left question next world reply wait after answered waits =>
    rw [goOn]
    simp [answered, waits, kept answered]
  | case3 question next world reply after free left answered ih =>
    rw [goOn]
    simpa [answered, free, ← kept answered] using ih
  | case4 question next world reply after free ms answered =>
    rw [goOn]
    simp [answered, free, kept answered]
  | case5 question next world reply after free left answered ih =>
    rw [goOn]
    simpa [answered, free, ← kept answered] using ih
  | case6 question next world reply after free ms left later answered =>
    rw [goOn]
    simp [answered, free, kept answered]

end World

/-- How a task stands, and how far its call has come. -/
inductive Standing.Is : Standing α → Progress α → Prop where
  | ready (rest : NodeProgram α) : Standing.Is (.ready (.operation rest)) (.going rest)
  | givingWay (ms : Nat) (rest : NodeProgram α) : Standing.Is (.givingWay ms rest) (.going rest)
  | stopping (rest : NodeProgram α) : Standing.Is .stopping (.going rest)
  | ended (result : α) (ms : Nat) : Standing.Is (.ended result ms) (.ended result)
  | stopped : Standing.Is .stopped .givenUp

/-- From some calls under way, moves lead to others. -/
def Traffic.Leads (program : ι → NodeProgram α) (cloud : CloudModel σ) (mounter : MounterModel μ)
    (traffic after : Traffic σ μ ι α) : Prop :=
  ∃ moves : List (Move ι), moves.foldl (step program cloud mounter) traffic = after

section Leads

variable {traffic middle after : Traffic σ μ ι α}

theorem Traffic.Leads.refl (traffic : Traffic σ μ ι α) : traffic.Leads program cloud mounter traffic :=
  ⟨[], rfl⟩

theorem Traffic.Leads.trans (h : traffic.Leads program cloud mounter middle)
    (h' : middle.Leads program cloud mounter after) : traffic.Leads program cloud mounter after := by
  obtain ⟨moves, rfl⟩ := h
  obtain ⟨later, rfl⟩ := h'
  exact ⟨moves ++ later, List.foldl_append⟩

theorem Traffic.Leads.move (traffic : Traffic σ μ ι α) (move : Move ι) :
    traffic.Leads program cloud mounter (traffic.step program cloud mounter move) :=
  ⟨[move], rfl⟩

end Leads

variable {traffic : Traffic σ μ ι α} {task : Nat} {order : ι} {rest : NodeProgram α}
  {world : World σ μ}

/-- Moves of one call lead to some world, and to a call that has come as far as its task. -/
def Traffic.Turns (program : ι → NodeProgram α) (cloud : CloudModel σ) (mounter : MounterModel μ)
    (traffic : Traffic σ μ ι α) (task : Nat) (order : ι) (standing : Standing α)
    (world : World σ μ) : Prop :=
  ∃ after progress, traffic.Leads program cloud mounter after ∧ after.world = world ∧
    after.calls = traffic.calls.set task ⟨order, progress⟩ ∧ standing.Is progress

section Ask

variable {question : Ask} {next : question.Answer → NodeProgram α} {reply : question.Answer}
  {wait : Option Nat} {after : World σ μ} {standing : Standing α}

/-- A turn that is over after one question. -/
theorem turns_over (program : ι → NodeProgram α)
    (here : traffic.calls[task]? = some ⟨order, .going (.ask question next)⟩)
    (polled : traffic.world.polled task = world) (free : world.isWaiting task = false)
    (answered : world.answer cloud mounter task question = (reply, wait, after))
    (stands : standing.Is (.going (next reply))) :
    traffic.Turns program cloud mounter task order standing after := by
  subst polled
  have moved := Traffic.goOn_ask here free answered
  exact ⟨_, _, .move _ (.goOn task), congrArg Traffic.world moved, congrArg Traffic.calls moved, stands⟩

/-- A turn that goes on after a question. -/
theorem turns_further (program : ι → NodeProgram α) {later : World σ μ}
    (here : traffic.calls[task]? = some ⟨order, .going (.ask question next)⟩)
    (polled : traffic.world.polled task = world) (free : world.isWaiting task = false)
    (answered : world.answer cloud mounter task question = (reply, wait, after))
    (free' : after.isWaiting task = false)
    (further : ∀ {traffic : Traffic σ μ ι α},
      traffic.calls[task]? = some ⟨order, .going (next reply)⟩ → traffic.world.polled task = after →
        traffic.Turns program cloud mounter task order standing later) :
    traffic.Turns program cloud mounter task order standing later := by
  subst polled
  have moved := Traffic.goOn_ask here free answered
  have inside : task < traffic.calls.length := (List.getElem?_eq_some_iff.mp here).1
  have here' : (traffic.goOn cloud mounter task).calls[task]? =
      some ⟨order, .going (next reply)⟩ := by
    simp [moved, inside]
  have polled : (traffic.goOn cloud mounter task).world.polled task = after := by
    rw [moved, World.polled_of_free free']
  obtain ⟨last, progress, way, hw, hc, stands⟩ := further here' polled
  refine ⟨last, progress, (Traffic.Leads.move _ (.goOn task)).trans way, hw, ?_, stands⟩
  rw [hc, moved, List.set_set]

end Ask

/-- A turn is a number of moves of the call. -/
theorem turns_goOn (program : ι → NodeProgram α) (cloud : CloudModel σ) (mounter : MounterModel μ)
    (left : Nat) (here : traffic.calls[task]? = some ⟨order, .going rest⟩)
    (polled : traffic.world.polled task = world) (free : world.isWaiting task = false) :
    let ended := world.goOn cloud mounter task left rest
    traffic.Turns program cloud mounter task order ended.1 ended.2.2 := by
  intro ended
  induction left, rest, world using World.goOn.induct cloud mounter task generalizing traffic with
  | case1 left result world =>
    subst polled
    have moved := Traffic.goOn_done cloud mounter here free
    have stands : ended.1.Is (.ended result) := by simpa [ended, World.goOn] using .ended _ _
    refine ⟨_, _, .move _ (.goOn task), ?_, congrArg Traffic.calls moved, stands⟩
    simpa [ended, World.goOn, Traffic.step] using congrArg Traffic.world moved
  | case2 left question next world reply wait after answered waits =>
    have last := turns_over program here polled free answered (.ready _)
    simpa [ended, World.goOn, answered, waits] using last
  | case3 question next world reply after free' left answered ih =>
    have free' : after.isWaiting task = false := by simpa using free'
    have further := turns_further program here polled free answered free' fun here polled =>
      ih here polled free'
    simpa [ended, World.goOn, answered, free'] using further
  | case4 question next world reply after free' ms answered =>
    have last := turns_over program here polled free answered (.givingWay ms _)
    simpa [ended, World.goOn, answered, free'] using last
  | case5 question next world reply after free' left answered ih =>
    have free' : after.isWaiting task = false := by simpa using free'
    have further := turns_further program here polled free answered free' fun here polled =>
      ih here polled free'
    simpa [ended, World.goOn, answered, free'] using further
  | case6 question next world reply after free' ms left later answered =>
    have last := turns_over program here polled free answered (.ready _)
    simpa [ended, World.goOn, answered, free'] using last

/-! ### Schedules -/

/-- A schedule stands where moves have led calls: with the same world, each task as far as its call,
and nothing due that is past. -/
structure Follows (orders : List ι) (traffic : Traffic σ μ ι α) (schedule : Schedule σ μ α) :
    Prop where
  world : schedule.world = traffic.world
  stands : ∀ task : Nat, Option.Rel (fun standing call => standing.Is call.progress)
    schedule.tasks[task]? traffic.calls[task]?
  orders : traffic.calls.map Call.order = orders
  ahead : schedule.agenda.Ahead schedule.world.now

/-- Moves from some calls lead to where a schedule stands. -/
def Followed (program : ι → NodeProgram α) (cloud : CloudModel σ) (mounter : MounterModel μ)
    (orders : List ι) (start : Traffic σ μ ι α) (schedule : Schedule σ μ α) : Prop :=
  ∃ traffic, start.Leads program cloud mounter traffic ∧ Follows orders traffic schedule

variable {orders : List ι} {schedule : Schedule σ μ α} {standing : Standing α}
  {progress : Progress α} {start : Traffic σ μ ι α}

theorem Follows.call (h : Follows orders traffic schedule)
    (here : schedule.tasks[task]? = some standing) :
    ∃ call, traffic.calls[task]? = some call ∧ standing.Is call.progress := by
  have rel := h.stands task
  rw [here] at rel
  generalize traffic.calls[task]? = found at rel
  cases rel with
  | some stands => exact ⟨_, rfl, stands⟩

/-- A task and its call are set together. -/
theorem Follows.stands_set (h : Follows orders traffic schedule)
    (here : traffic.calls[task]? = some ⟨order, .going rest⟩) (stands : standing.Is progress)
    (other : Nat) :
    Option.Rel (fun standing call => standing.Is call.progress)
      (schedule.tasks.set task standing)[other]? (traffic.calls.set task ⟨order, progress⟩)[other]? := by
  have rel := h.stands task
  rw [here] at rel
  have inside : task < schedule.tasks.length := by
    by_contra outside
    rw [List.getElem?_eq_none (by omega)] at rel
    cases rel
  have inside' : task < traffic.calls.length := (List.getElem?_eq_some_iff.mp here).1
  by_cases own : task = other
  · subst own
    simpa [inside, inside'] using Option.Rel.some stands
  · rw [List.getElem?_set_ne own, List.getElem?_set_ne own]
    exact h.stands other

theorem set_self (here : traffic.calls[task]? = some ⟨order, .going rest⟩) :
    traffic.calls.set task ⟨order, .going rest⟩ = traffic.calls := by
  obtain ⟨inside, same⟩ := List.getElem?_eq_some_iff.mp here
  rw [← same, List.set_getElem_self]

theorem orders_set (here : traffic.calls[task]? = some ⟨order, .going rest⟩) (progress : Progress α) :
    (traffic.calls.set task ⟨order, progress⟩).map Call.order = traffic.calls.map Call.order := by
  have same : (traffic.calls.map Call.order)[task]? = some order := by simp [here]
  obtain ⟨inside, rfl⟩ := List.getElem?_eq_some_iff.mp same
  rw [List.map_set, List.set_getElem_self]

theorem Follows.goOn (h : Follows orders traffic schedule)
    (here : traffic.calls[task]? = some ⟨order, .going rest⟩) :
    Followed program cloud mounter orders traffic (schedule.goOn cloud mounter task rest) := by
  rw [Schedule.goOn]
  dsimp only
  split
  case isTrue => exact ⟨traffic, .refl _, h⟩
  case isFalse free =>
    obtain ⟨after, progress, way, hw, hc, stands⟩ := turns_goOn program cloud mounter
      (waitsPerTurn - 1) here (by rw [← h.world]; rfl) (Bool.eq_false_iff.mpr free)
    obtain ⟨now, later⟩ := World.now_goOn cloud mounter task (waitsPerTurn - 1) rest
      (schedule.world.polled task)
    change (World.goOn _ _ _ _ _ (schedule.world.polled task)).2.2.now = schedule.world.now at now
    refine ⟨after, way, hw.symm, ?_, ?_, ?_⟩
    · intro other
      rw [hc]
      exact h.stands_set here stands other
    · rw [hc, orders_set here, h.orders]
    · change Agenda.Ahead (World.goOn _ _ _ _ _ (schedule.world.polled task)).2.2.now _
      rw [now]
      dsimp only
      split
      case h_1 ms due => exact h.ahead.put (later ms due) _
      case h_2 => exact h.ahead

/-! ### What a schedule does -/

/-- What changes no task, no time and nothing that a world shows leaves a schedule where it was. -/
theorem Followed.quiet (h : Followed program cloud mounter orders start schedule)
    {next : Schedule σ μ α} (world : next.world = schedule.world) (tasks : next.tasks = schedule.tasks)
    (ahead : schedule.agenda.Ahead schedule.world.now → next.agenda.Ahead schedule.world.now) :
    Followed program cloud mounter orders start next := by
  obtain ⟨traffic, way, h⟩ := h
  refine ⟨traffic, way, world.trans h.world, ?_, h.orders, ?_⟩
  · rw [tasks]
    exact h.stands
  · rw [world]
    exact ahead h.ahead

theorem Followed.bringBack (h : Followed program cloud mounter orders start schedule) :
    Followed program cloud mounter orders start schedule.bringBack :=
  h.quiet rfl rfl fun ahead => ahead.putTurns id _

theorem Followed.count (h : Followed program cloud mounter orders start schedule) :
    Followed program cloud mounter orders start schedule.count := by
  rw [Schedule.count]
  split
  · exact h.quiet rfl rfl id
  · exact h.bringBack

theorem Followed.wake (h : Followed program cloud mounter orders start schedule) :
    Followed program cloud mounter orders start schedule.wake :=
  h.quiet rfl rfl fun ahead => ahead.putTurns _ _

theorem Follows.turn (h : Follows orders traffic schedule) (task : Nat) :
    Followed program cloud mounter orders traffic (schedule.turn cloud mounter task) := by
  rw [Schedule.turn]
  split
  case h_1 rest here =>
    obtain ⟨⟨order, progress⟩, hc, stands⟩ := h.call here
    cases stands
    exact h.goOn hc
  case h_2 rest here =>
    obtain ⟨⟨order, progress⟩, hc, stands⟩ := h.call here
    cases stands
    exact h.goOn hc
  case h_3 ms rest later here =>
    obtain ⟨⟨order, progress⟩, hc, stands⟩ := h.call here
    cases stands
    refine ⟨traffic, .refl _, h.world, ?_, h.orders, h.ahead.put (Nat.le_add_right _ ms) _⟩
    have stood := h.stands_set hc (.ready rest)
    rwa [set_self hc] at stood
  case h_4 text result here =>
    obtain ⟨_, -, stands⟩ := h.call here
    cases stands
  case h_5 here =>
    obtain ⟨⟨order, progress⟩, hc, stands⟩ := h.call here
    cases stands with
    | stopping rest =>
      refine ⟨traffic.giveUp task, .move traffic (.giveUp task), ?_, ?_, ?_, h.ahead.filter _⟩
      · simp [Traffic.giveUp, hc, h.world]
      · simpa [Traffic.giveUp, hc] using h.stands_set hc .stopped
      · simpa [Traffic.giveUp, hc, orders_set hc] using h.orders
  case h_6 => exact ⟨traffic, .refl _, h⟩

theorem Follows.stop (h : Follows orders traffic schedule) (task : Nat) :
    Follows orders traffic (schedule.stop task) := by
  have stopping {order : ι} {rest : NodeProgram α}
      (here : traffic.calls[task]? = some ⟨order, .going rest⟩) :
      Follows orders traffic
        { schedule with
          tasks := schedule.tasks.set task .stopping
          agenda := schedule.agenda.putTurn schedule.world.now task } := by
    have stood := h.stands_set here (.stopping rest)
    rw [set_self here] at stood
    exact ⟨h.world, stood, h.orders, h.ahead.putTurn task⟩
  rw [Schedule.stop]
  split
  case h_1 job here =>
    obtain ⟨⟨order, progress⟩, hc, stands⟩ := h.call here
    cases stands
    exact stopping hc
  case h_2 ms rest here =>
    obtain ⟨⟨order, progress⟩, hc, stands⟩ := h.call here
    cases stands
    exact stopping hc
  case h_3 => exact h

theorem Followed.perform (h : Followed program cloud mounter orders start schedule) (due : Due) :
    Followed program cloud mounter orders start (schedule.perform cloud mounter due) := by
  obtain ⟨traffic, way, h⟩ := h
  cases due with
  | turn task =>
    obtain ⟨after, further, h⟩ : Followed program cloud mounter orders traffic
      (schedule.turn cloud mounter task) := h.turn task
    have turned : Followed program cloud mounter orders start (schedule.turn cloud mounter task) :=
      ⟨after, way.trans further, h⟩
    exact turned.wake.count
  | stop task =>
    have stopped : Followed program cloud mounter orders start (schedule.stop task) :=
      ⟨traffic, way, h.stop task⟩
    exact stopped.count

theorem Followed.performAt (h : Followed program cloud mounter orders start schedule) (ms : Nat)
    (due : Due) :
    Followed program cloud mounter orders start (schedule.performAt cloud mounter ms due) := by
  rw [Schedule.performAt]
  split
  case isTrue => exact h.perform due
  case isFalse later =>
    have put : Followed program cloud mounter orders start
        { schedule with agenda := schedule.agenda.put ms due } :=
      h.quiet rfl rfl fun ahead => ahead.put (by omega) due
    exact put.count

theorem Followed.enroll (h : Followed program cloud mounter orders start schedule) (plan : Plan α)
    (task : Nat) :
    Followed program cloud mounter orders start (schedule.enroll cloud mounter plan task) := by
  rw [Schedule.enroll]
  split
  · exact (h.performAt _ _).performAt _ _
  · exact h.performAt _ _

/-- The clock is set to what is due next. -/
theorem Followed.step (h : Followed program cloud mounter orders start schedule) :
    Followed program cloud mounter orders start (schedule.step cloud mounter) := by
  rw [Schedule.step]
  have come : Followed program cloud mounter orders start
      (if schedule.isIdle then schedule.bringBack else schedule) := by
    split
    · exact h.bringBack
    · exact h
  generalize (if schedule.isIdle then schedule.bringBack else schedule) = schedule at come ⊢
  split
  case h_1 => exact come
  case h_2 ms due agenda first =>
    obtain ⟨traffic, way, h⟩ := come
    have ahead := h.ahead
    rw [first] at ahead
    have later : schedule.world.now ≤ ms := ahead.future _ List.mem_cons_self
    refine Followed.perform ⟨_, way.trans (.move traffic (.pass (ms - schedule.world.now))), ?_⟩ due
    refine ⟨?_, h.stands, h.orders, ahead.tail⟩
    have clock : schedule.world.now + (ms - schedule.world.now) = ms := by omega
    simp only [Traffic.step, World.pass, ← h.world, clock]

theorem Followed.steps (h : Followed program cloud mounter orders start schedule) (count : Nat) :
    Followed program cloud mounter orders start (schedule.steps cloud mounter count) := by
  induction count generalizing schedule with
  | zero => exact h
  | succ count ih =>
    rw [Schedule.steps]
    split
    · exact h
    · exact ih h.step

/-! ### What is run -/

/-- Calls that were begun and did nothing yet. -/
theorem begun (program : ι → NodeProgram α) (cloud : CloudModel σ) (mounter : MounterModel μ)
    (orders : List ι) (traffic : Traffic σ μ ι α) :
    (orders.map Move.begin).foldl (Traffic.step program cloud mounter) traffic =
      { traffic with
        calls := traffic.calls ++ orders.map fun order => ⟨order, .going (program order)⟩ } := by
  induction orders generalizing traffic with
  | nil => simp
  | cons order rest ih =>
    rw [List.map_cons, List.foldl_cons, ih]
    simp [Traffic.step]

theorem followed_start (plans : List (Plan α)) (world : World σ μ)
    (jobs : plans.map Plan.job = orders.map fun order => .operation (program order)) :
    Followed program cloud mounter orders (.start world) (Schedule.start plans world) := by
  have tasks : (Schedule.start plans world).tasks =
      orders.map fun order => .ready (.operation (program order)) := by
    have ready : (Schedule.start plans world).tasks = (plans.map Plan.job).map .ready := by
      simp [Schedule.start]
    rw [ready, jobs, List.map_map]
    rfl
  refine ⟨_, ⟨orders.map .begin, begun ..⟩, rfl, fun task => ?_, ?_, by simp [Schedule.start],
    by simp [Schedule.start]⟩
  · rw [tasks]
    simp only [Traffic.start, List.nil_append, List.getElem?_map]
    cases orders[task]? with
    | none => exact .none
    | some order => exact .some (.ready _)
  · simp [Traffic.start, Function.comp_def]

/-- The tasks that are run in turns are calls under way: moves lead to the same world, and to calls
that have come as far as the tasks. -/
theorem runTasks_leads (program : ι → NodeProgram α) (cloud : CloudModel σ)
    (mounter : MounterModel μ) (policy : Operation.RetryPolicy) (plans : List (Plan α))
    (orders : List ι) (world : World σ μ)
    (jobs : plans.map Plan.job = orders.map fun order => .operation (program order)) :
    let ended := runTasks cloud mounter policy plans world
    ∃ moves, let traffic := Traffic.run program cloud mounter moves world
      traffic.world = ended.2 ∧ traffic.calls.map Call.order = orders ∧
        ∀ task : Nat, Option.Rel (fun standing call => standing.Is call.progress)
          ended.1[task]? traffic.calls[task]? := by
  intro ended
  have enrolled (plans : List (Plan α × Nat)) (schedule : Schedule σ μ α)
      (h : Followed program cloud mounter orders (.start world) schedule) :
      Followed program cloud mounter orders (.start world)
        (plans.foldl (fun schedule plan => schedule.enroll cloud mounter plan.1 plan.2)
          schedule) := by
    induction plans generalizing schedule with
    | nil => exact h
    | cons plan rest ih => exact ih _ (h.enroll plan.1 plan.2)
  obtain ⟨_, ⟨moves, rfl⟩, h⟩ := (enrolled plans.zipIdx _ (followed_start plans world jobs)).steps
    (plans.length * (turnBound policy + 2))
  exact ⟨moves, h.world.symm, h.orders, h.stands⟩

end BlockVolume.Node
