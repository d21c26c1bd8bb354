import BlockVolume.Proofs.Node.Discipline
import BlockVolume.Proofs.Operation.Alphabet
import BlockVolume.Proofs.Volume.Request
import BlockVolume.Rehearsal.Script
/-!
Staging and unstaging are serialized for each disk on a node.

A call reads its request, asks for the lock of the request, executes its action, gives the lock back
and ends (`Phase`). So calls are disciplined, and what `Discipline` tells of their locks is told here
of their executions.
-/

namespace BlockVolume.Node

open BlockVolume.Operation (Action Outcome Status)
open BlockVolume.Program
open BlockVolume.Rehearsal (Script)
open BlockVolume.Volume (Options Request)

variable {σ μ : Type}

/-- A call that stages a volume, by an attach, or unstages it, by a detach. -/
structure VolumeCall where
  action : Action
  volume : String
  staging : Path
  options : Options

/-- What a call locks: the node that its options name, or else the one that was looked up, and its
volume without the blanks around it. -/
def VolumeCall.Locks (call : VolumeCall) (es : List (Exchange Ask.Answer)) (key : LockKey) : Prop :=
  key.disk = Text.trim call.volume ∧
    (call.options.nonBlank? Volume.nodeKey = some key.node ∨
      call.options.nonBlank? Volume.nodeKey = none ∧
        ⟨.cloud (.metadata Volume.nodeResource), some key.node⟩ ∈ es)

namespace Service

/-- What is done for a call. -/
def program (service : Service) (call : VolumeCall) : NodeProgram Answer :=
  match call.action with
  | .attach => (service.stage call.volume call.staging call.options).run
  | .detach => (service.unstage call.volume call.staging call.options).run

/-- What is done after an execution: the lock is given back. -/
def giveBack (request : Request) (outcome : Outcome) : NodeProgram Answer := do
  (Ask.release request.lockKey).ask
  return outcome.status

/-- What is done when a request was read, or was not. -/
def carryOut (service : Service) (call : VolumeCall) : Except Status Request → NodeProgram Answer
  | .error status => return .error status
  | .ok request => do
    (Ask.acquire request.lockKey).ask
    service.attacher.execute call.action request call.staging >>= giveBack request

variable {service : Service} {call : VolumeCall} {es : List (Exchange Ask.Answer)}
  {left : NodeProgram Answer} {request : Request} {key : LockKey} {question : Ask}

theorem program_eq (service : Service) (call : VolumeCall) :
    service.program call =
      (service.parse call.volume call.options).run >>= service.carryOut call := by
  have whole : service.program call =
      (service.change call.action call.volume call.staging call.options).run := by
    rw [program]
    split <;> rename_i h <;> rw [h] <;> rfl
  rw [whole, change, ExceptT.run_bind]
  congr 1
  funext read
  cases read with
  | error status => rfl
  | ok request =>
    dsimp only [carryOut, perform]
    generalize service.attacher.execute call.action request call.staging = execution
    refine congrArg (Program.ask (Ask.acquire request.lockKey)) (funext fun _ => ?_)
    exact (congrArg (· >>= _) (bind_assoc execution _ _)).trans (bind_assoc execution _ _)

/-! ### One call -/

/-- Where a call is after some exchanges: it reads its request, executes its action, or has given its
lock back. -/
inductive Phase (service : Service) (call : VolumeCall) :
    List (Exchange Ask.Answer) → NodeProgram Answer → Prop where
  | reading {es : List (Exchange Ask.Answer)} {left : NodeProgram (Except Status Request)}
      (way : Reaches (service.parse call.volume call.options).run es left) :
      Phase service call es (left >>= service.carryOut call)
  | inside {before during : List (Exchange Ask.Answer)} {request : Request}
      {left : NodeProgram Outcome}
      (read : History (service.parse call.volume call.options).run before (.ok request))
      (way : Reaches (service.attacher.execute call.action request call.staging) during left) :
      Phase service call (before ++ ⟨.acquire request.lockKey, ()⟩ :: during)
        (left >>= giveBack request)
  | returned {before during : List (Exchange Ask.Answer)} {request : Request} {outcome : Outcome}
      (read : History (service.parse call.volume call.options).run before (.ok request))
      (way : History (service.attacher.execute call.action request call.staging) during outcome) :
      Phase service call
        (before ++ ⟨.acquire request.lockKey, ()⟩ :: (during ++ [⟨.release request.lockKey, ()⟩]))
        (.done outcome.status)

theorem phase_of_reaches (h : Reaches (service.program call) es left) :
    Phase service call es left := by
  rw [program_eq] at h
  rcases h.of_bind with ⟨rest, way, rfl⟩ | ⟨before, read, after, rfl, hp, hc⟩
  · exact .reading way
  cases read with
  | error status =>
    cases hc
    rw [List.append_nil]
    exact .reading (reaches_done.mpr hp)
  | ok request =>
    rcases hc.of_bind with ⟨rest, way, rfl⟩ | ⟨asked, _, after, rfl, hq, hx⟩
    · cases way with
      | refl =>
        rw [List.append_nil]
        exact .reading (reaches_done.mpr hp)
      | ask _ _ _ way =>
        cases way
        exact .inside hp (.refl _)
    · obtain rfl := history_query.mp hq
      rcases hx.of_bind with ⟨rest, way, rfl⟩ | ⟨during, outcome, after, rfl, he, hg⟩
      · exact .inside hp way
      cases hg with
      | refl =>
        rw [List.append_nil]
        exact .inside hp (reaches_done.mpr he)
      | ask _ _ _ hg =>
        cases hg
        exact .returned hp he

/-- Reading a request asks for metadata and nothing else. -/
theorem only_parse (service : Service) (call : VolumeCall) :
    Only (fun question => ∃ resource, question = .cloud (.metadata resource))
      (service.parse call.volume call.options).run :=
  Only.bind (Volume.only_parse _ _) fun _ => only_pure _

/-- An execution asks for no lock. -/
theorem unlocked_execute {action : Action} {request : Request} {staging : Path} :
    Only (·.isLock = false) (service.attacher.execute action request staging) := by
  intro es outcome h e he
  have asked := Operation.only_execute h e he
  generalize e.question = question at asked
  cases action <;> cases asked with
  | look look => exact Ask.isLock_of_isLooking look
  | inspect inspect => exact Ask.isLock_of_isInspecting inspect
  | _ => rfl

theorem claimed_reading {left : NodeProgram (Except Status Request)}
    (way : Reaches (service.parse call.volume call.options).run es left) : claimed es = none :=
  claimed_append [] fun e he => by
    obtain ⟨resource, hq⟩ := (only_parse service call).reaches way e he
    rw [hq]
    rfl

theorem claimed_inside {before during : List (Exchange Ask.Answer)} {left : NodeProgram Outcome}
    (way : Reaches (service.attacher.execute call.action request call.staging) during left) :
    claimed (before ++ ⟨.acquire request.lockKey, ()⟩ :: during) = some request.lockKey := by
  rw [List.append_cons, claimed_append _ (unlocked_execute.reaches way), claimed_acquire]

theorem claimed_returned {before during : List (Exchange Ask.Answer)} :
    claimed (before ++ ⟨.acquire key, ()⟩ :: (during ++ [⟨.release key, ()⟩])) = none := by
  rw [← List.cons_append, ← List.append_assoc, claimed_release]

/-- A call asked for no other lock than that of the request that it read. -/
theorem acquire_mem_inside {before during : List (Exchange Ask.Answer)}
    {left : NodeProgram Outcome}
    (read : History (service.parse call.volume call.options).run before (.ok request))
    (way : Reaches (service.attacher.execute call.action request call.staging) during left)
    (h : ⟨.acquire key, ()⟩ ∈ before ++ ⟨.acquire request.lockKey, ()⟩ :: during) :
    key = request.lockKey := by
  rcases List.mem_append.mp h with h | h
  · obtain ⟨resource, hq⟩ := only_parse service call read _ h
    cases hq
  · rcases List.mem_cons.mp h with heq | h
    · cases heq
      rfl
    · cases unlocked_execute.reaches way _ h

/-- What a call asks a lock for. -/
theorem locks_of_read {before : List (Exchange Ask.Answer)}
    (read : History (service.parse call.volume call.options).run before (.ok request)) :
    call.Locks before request.lockKey := by
  obtain ⟨es, parsed, after, rfl, hp, hm⟩ := history_bind.mp read
  obtain ⟨rfl, heq⟩ := history_pure.mp hm
  cases parsed with
  | error e => cases heq
  | ok found =>
    obtain rfl := Except.ok.inj heq
    obtain ⟨forNode, forZone, forRegion, region, rfl, checked, hn, -⟩ := Volume.history_parse hp
    refine ⟨Volume.nonBlank?_insert_self (Volume.nonBlank?_of_checkOptions checked), ?_⟩
    have same := Volume.nonBlank?_insert_of_ne call.options call.volume
      (show Volume.nodeKey ≠ Volume.diskKey by decide)
    rcases Volume.history_resolve hn with ⟨value, given, -, heq⟩ | ⟨blank, rfl⟩
    · cases heq
      exact Or.inl (same.symm.trans given)
    · exact Or.inr ⟨same.symm.trans blank, List.mem_append_left _ List.mem_cons_self⟩

/-- A call that asked for a lock had read what it locks; one that called the control plane had asked
for a lock. -/
theorem Phase.locks (phase : Phase service call es left) :
    (∀ key, ⟨.acquire key, ()⟩ ∈ es → call.Locks es key) ∧
      ∀ e ∈ es, e.question.isControl → ∃ key, ⟨.acquire key, ()⟩ ∈ es := by
  have locks {before after : List (Exchange Ask.Answer)} {request : Request}
      (read : History (service.parse call.volume call.options).run before (.ok request)) :
      call.Locks (before ++ after) request.lockKey :=
    have found := locks_of_read read
    ⟨found.1, found.2.imp_right fun asked => ⟨asked.1, List.mem_append_left _ asked.2⟩⟩
  cases phase with
  | reading way =>
    constructor
    · intro key h
      obtain ⟨resource, hq⟩ := (only_parse service call).reaches way _ h
      cases hq
    · intro e he control
      obtain ⟨resource, hq⟩ := (only_parse service call).reaches way e he
      rw [hq] at control
      cases control
  | inside read way =>
    refine ⟨fun key h => ?_, fun _ _ _ => ⟨_, List.mem_append_right _ List.mem_cons_self⟩⟩
    rw [acquire_mem_inside read way h]
    exact locks read
  | returned read way =>
    refine ⟨fun key h => ?_, fun _ _ _ => ⟨_, List.mem_append_right _ List.mem_cons_self⟩⟩
    rw [← List.cons_append, ← List.append_assoc] at h
    rcases List.mem_append.mp h with h | h
    · rw [acquire_mem_inside read (reaches_done.mpr way) h]
      exact locks read
    · cases List.mem_singleton.mp h

/-- What a call asks, but for metadata and locks, it asks for the lock that it asked for. -/
theorem asks_inside {next : question.Answer → NodeProgram Answer}
    (h : Reaches (service.program call) es (.ask question next)) (lock : question.isLock = false)
    (working : ∀ resource, question ≠ .cloud (.metadata resource)) :
    ∃ key, claimed es = some key ∧ ∀ other, ⟨.acquire other, ()⟩ ∈ es → other = key := by
  have phase := phase_of_reaches h
  generalize hl : Program.ask question next = left at phase
  cases phase with
  | reading way =>
    rcases bind_eq_ask hl.symm with ⟨first, rfl⟩ | ⟨read, rfl, hc⟩
    · obtain ⟨resource, rfl⟩ := (only_parse service call).asks way
      exact absurd rfl (working resource)
    · cases read with
      | error status => cases hc
      | ok request =>
        cases hc
        cases lock
  | inside read way => exact ⟨_, claimed_inside way, fun _ => acquire_mem_inside read way⟩
  | returned read way => cases hl

theorem disciplined (service : Service) (call : VolumeCall) : Disciplined (service.program call) where
  acquire {es key next} h := by
    have phase := phase_of_reaches h
    generalize hl : Program.ask (Ask.acquire key) next = left at phase
    cases phase with
    | reading way =>
      refine ⟨claimed_reading way, fun e he => ?_⟩
      obtain ⟨resource, hq⟩ := (only_parse service call).reaches way e he
      rw [hq]
      rfl
    | inside read way =>
      rcases bind_eq_ask hl.symm with ⟨first, rfl⟩ | ⟨outcome, rfl, hg⟩
      · have lock := unlocked_execute.asks way
        cases lock
      · cases hg
    | returned read way => cases hl
  control {es question next} h control := by
    refine asks_inside h (Ask.isLock_of_isControl control) ?_
    rintro resource rfl
    cases control
  finish {es result} h := by
    have phase := phase_of_reaches (reaches_done.mpr h)
    generalize hl : Program.done result = left at phase
    cases phase with
    | reading way => exact claimed_reading way
    | @inside _ _ _ left => cases left <;> cases hl
    | returned read way => exact claimed_returned

end Service

/-! ### Calls under way -/

namespace Traffic

/-- A call asked for the lock of the request that it read, and came so far in the execution of its
action that `left` is left of it. -/
def Engaged (service : Service) (traffic : Traffic σ μ VolumeCall Answer) (number : Nat)
    (request : Request) : Prop :=
  ∃ (call : VolumeCall) (before during : List (Exchange Ask.Answer)) (left : NodeProgram Outcome),
    traffic.calls[number]? = some ⟨call, .going (left >>= Service.giveBack request)⟩ ∧
    traffic.past number = before ++ ⟨.acquire request.lockKey, ()⟩ :: during ∧
    History (service.parse call.volume call.options).run before (.ok request) ∧
    Reaches (service.attacher.execute call.action request call.staging) during left

/-- A call is inside the execution of its action. -/
def Inside (service : Service) (traffic : Traffic σ μ VolumeCall Answer) (number : Nat)
    (request : Request) : Prop :=
  traffic.Engaged service number request ∧ traffic.world.isWaiting number = false

/-- A call waits until it may execute its action. -/
def Waits (service : Service) (traffic : Traffic σ μ VolumeCall Answer) (number : Nat)
    (request : Request) : Prop :=
  traffic.Engaged service number request ∧ traffic.world.isWaiting number = true

variable {service : Service} {traffic : Traffic σ μ VolumeCall Answer} {number : Nat}
  {request : Request} {key : LockKey}

theorem Engaged.claim (h : traffic.Engaged service number request) :
    traffic.claim number = some request.lockKey := by
  obtain ⟨call, before, during, left, here, past, -, way⟩ := h
  rw [Traffic.claim, here, past]
  exact Service.claimed_inside way

/-- The calls that have asked for a lock, and not given it back, are on their way. -/
theorem engaged_of_claim (h : Tracked service.program traffic)
    (claim : traffic.claim number = some key) :
    ∃ request, traffic.Engaged service number request ∧ request.lockKey = key := by
  rw [Traffic.claim] at claim
  split at claim
  case h_2 => cases claim
  case h_1 call left here =>
    have phase := Service.phase_of_reaches (h.along number _ here)
    dsimp only at phase
    generalize hp : traffic.past number = es at phase claim
    cases phase with
    | reading way =>
      rw [Service.claimed_reading way] at claim
      cases claim
    | @inside before during request left read way =>
      rw [Service.claimed_inside way] at claim
      exact ⟨request, ⟨call, before, during, left, here, hp, read, way⟩, Option.some.inj claim⟩
    | returned =>
      rw [Service.claimed_returned] at claim
      cases claim

/-- Calls are serialized for each disk on a node. -/
structure Serialized (service : Service) (cloud : CloudModel σ) (mounter : MounterModel μ)
    (traffic : Traffic σ μ VolumeCall Answer) : Prop where
  /-- What a call locks is told by the ids of its node and its volume. -/
  locks : ∀ number key, (number, key) ∈ traffic.acquires →
    ∃ call, traffic.calls[number]? = some call ∧ call.order.Locks (traffic.past number) key
  /-- One call at most is inside an execution. -/
  exclusive : ∀ number other request request', traffic.Inside service number request →
    traffic.Inside service other request' → request.lockKey = request'.lockKey → number = other
  /-- The control plane is called for the lock that was asked for. -/
  locked : ∀ number ∈ traffic.controls, ∃ key, (number, key) ∈ traffic.acquires
  /-- Of two calls, one calls the control plane before the other does. -/
  apart : ∀ number other key, number ≠ other → (number, key) ∈ traffic.acquires →
    (other, key) ∈ traffic.acquires →
      Precedes traffic.controls number other ∨ Precedes traffic.controls other number
  /-- A call that ended, with whatever result, or was given up has no part in the locks. -/
  freed : ∀ number call, traffic.calls[number]? = some call →
    (∀ rest, call.progress ≠ .going rest) → traffic.world.locks.claim? number = none
  /-- Where a call waits and none is inside, the one that asked first goes on when it has its turn. -/
  next : ∀ number request, traffic.Waits service number request →
    (∀ other request', traffic.Inside service other request' →
      request'.lockKey ≠ request.lockKey) →
    ∃ first request', traffic.Waits service first request' ∧ request'.lockKey = request.lockKey ∧
      (∀ other request'', traffic.Waits service other request'' →
        request''.lockKey = request.lockKey → other ≠ first →
          [(first, request.lockKey), (other, request.lockKey)].Sublist traffic.acquires) ∧
      ∃ e, (traffic.goOn cloud mounter first).log = traffic.log ++ [(first, e)]

/-- However calls that stage and unstage volumes are interleaved, and whichever of them are given up
wherever they are, they are serialized for each disk on a node. -/
theorem serialized_run (service : Service) (cloud : CloudModel σ) (mounter : MounterModel μ)
    (cloudState : σ) (mounterState : μ) (tree : Host.FileTree) (moves : List (Move VolumeCall)) :
    Serialized service cloud mounter
      (run service.program cloud mounter moves (.start cloudState mounterState tree)) := by
  have tracked := tracked_run service.program cloud mounter moves
    (.start cloudState mounterState tree)
  have guarded := guarded_run service.disciplined cloud mounter moves cloudState mounterState tree
  generalize run service.program cloud mounter moves _ = traffic at tracked guarded
  have phase {number : Nat} {call : Call VolumeCall Answer}
      (here : traffic.calls[number]? = some call) :
      ∃ left, Service.Phase service call.order (traffic.past number) left :=
    (tracked.reaches here).imp fun _ => Service.phase_of_reaches
  have known {number : Nat} {e : Exchange Ask.Answer} (he : e ∈ traffic.past number) :
      ∃ call, traffic.calls[number]? = some call :=
    ⟨_, List.getElem?_eq_getElem (tracked.known _ (mem_past.mp he))⟩
  constructor
  case locks =>
    intro number key asked
    obtain ⟨call, here⟩ := known (mem_acquires.mp asked)
    obtain ⟨left, phase⟩ := phase here
    exact ⟨call, here, phase.locks.1 key (mem_acquires.mp asked)⟩
  case exclusive =>
    intro number other request request' inside inside' same
    exact guarded.eq_of_claim inside.1.claim (same ▸ inside'.1.claim) inside.2 inside'.2
  case locked =>
    intro number called
    obtain ⟨e, he, control⟩ := mem_controls.mp called
    obtain ⟨call, here⟩ := known he
    obtain ⟨left, phase⟩ := phase here
    exact (phase.locks.2 e he control).imp fun key => mem_acquires.mpr
  case apart => exact fun _ _ _ => guarded.ordered.apart
  case freed =>
    intro number call here ended
    refine Option.map_eq_none_iff.mp (guarded.grip_eq_none ?_)
    rw [Traffic.claim, here]
    obtain ⟨order, progress⟩ := call
    cases progress with
    | going rest => exact absurd rfl (ended rest)
    | _ => rfl
  case next =>
    intro number request waits free
    obtain ⟨first, claim, waits', now, oldest⟩ :=
      guarded.next_claim waits.1.claim fun other claim => by
        by_contra not
        obtain ⟨request', engaged, same⟩ := engaged_of_claim tracked claim
        exact free other request' ⟨engaged, Bool.eq_false_iff.mpr not⟩ same
    obtain ⟨request', engaged, same⟩ := engaged_of_claim tracked claim
    refine ⟨first, request', ⟨engaged, waits'⟩, same, fun other request'' waits'' same' ne => ?_, ?_⟩
    · exact oldest other (same' ▸ waits''.1.claim) ne
    · obtain ⟨call, before, during, left, here, -⟩ := engaged
      cases left with
      | done outcome => exact ⟨_, congrArg Traffic.log (goOn_ask here now rfl)⟩
      | ask question rest => exact ⟨_, congrArg Traffic.log (goOn_ask here now rfl)⟩

end Traffic

/-! ### Two calls for one disk -/

/-- A node without credentials. -/
def sampleService : Service := ⟨"r-1", ⟨[], none⟩, ⟨4, 100, 1000⟩⟩

/-- Staging a volume there. -/
def sampleStaging (volume : String) : VolumeCall :=
  ⟨.attach, volume, ⟨"/s"⟩, [("nodeId", "i-1"), ("zoneId", "z-1"), ("regionId", "r-1")]⟩

/-- A mounter that refuses everything. -/
def refusing : MounterModel Unit where
  answer question _ _ := (Rehearsal.refuse (.told "no mounter") question, ())

/-- Calls on that node. -/
def sampleCalls (moves : List (Move VolumeCall)) : Traffic Script Unit VolumeCall Answer :=
  .run sampleService.program Script.cloud refusing moves (.start Script.quiet () ⟨[]⟩)

/-- Two calls for one disk ask for its lock — the blank is no part of the id —, and the first is given
up. -/
def sampleTraffic : Traffic Script Unit VolumeCall Answer :=
  sampleCalls [.begin (sampleStaging "d-1"), .begin (sampleStaging " d-1"), .goOn 0, .goOn 1,
    .giveUp 0]

theorem claim_sampleTraffic {number : Nat} {key : LockKey}
    (claim : sampleTraffic.claim number = some key) : number = 1 := by
  have two : sampleTraffic.calls.length = 2 := by decide +kernel
  match number with
  | 0 =>
    have none : sampleTraffic.claim 0 = none := by decide +kernel
    rw [none] at claim
    cases claim
  | 1 => rfl
  | number + 2 =>
    rw [Traffic.claim, List.getElem?_eq_none (by omega)] at claim
    cases claim

theorem waits_sampleTraffic : ∃ request, sampleTraffic.Waits sampleService 1 request := by
  have asked : sampleTraffic.claim 1 = some ⟨"i-1", "d-1"⟩ := by decide +kernel
  have waiting : sampleTraffic.world.isWaiting 1 = true := by decide +kernel
  obtain ⟨request, engaged, -⟩ := Traffic.engaged_of_claim (Traffic.tracked_run ..) asked
  exact ⟨request, engaged, waiting⟩

/-- Then the second goes on. -/
theorem sampleTraffic_goes_on :
    ∃ e, (sampleTraffic.goOn Script.cloud refusing 1).log = sampleTraffic.log ++ [(1, e)] := by
  obtain ⟨request, waits⟩ := waits_sampleTraffic
  have serialized : Traffic.Serialized sampleService Script.cloud refusing sampleTraffic :=
    Traffic.serialized_run sampleService Script.cloud refusing Script.quiet () ⟨[]⟩ _
  obtain ⟨first, request', waits', -, -, goes⟩ := serialized.next 1 request waits
    fun other request' inside _ => by
      obtain rfl := claim_sampleTraffic inside.1.claim
      cases inside.2.symm.trans waits.2
  obtain rfl := claim_sampleTraffic waits'.1.claim
  exact goes

end BlockVolume.Node
