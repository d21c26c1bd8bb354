import BlockVolume.Proofs.Lock.Waiters
/-!
How a key is handed on.

A `Story` follows a run and keeps for one key which claims were started, which came to hold the key,
and which were given up before, each claim known by the place of its start. `Fair` says that the
claims that were not given up are those that held the key, and behind them those that wait for it,
all in the order of their starts; every event preserves it.
-/

namespace BlockVolume.Lock.Table

variable {ν : Type} {table : Table ν} {key : LockKey} {name : ν}

variable [DecidableEq ν]

/-! ### A chosen claim -/

theorem IsChosen.drop (h : table.IsChosen name key) {other : ν} (ne : other ≠ name) :
    (table.drop other).IsChosen name key := by
  obtain ⟨claim, hc, rfl, rfl, hs⟩ := h
  exact ⟨claim, List.mem_filter.mpr ⟨hc, bne_iff_ne.mpr ne.symm⟩, rfl, rfl, hs⟩

omit [DecidableEq ν] in
theorem IsChosen.handOver (h : table.IsChosen name key) (slot : Nat) :
    (table.handOver slot).IsChosen name key := by
  obtain ⟨claim, hc, rfl, rfl, hs⟩ := h
  exact ⟨claim, mem_choose_of_not hc (by simp [hs]), rfl, rfl, hs⟩

theorem IsChosen.start (h : table.IsChosen name key) (other : ν) (claimed : LockKey) :
    (table.start other claimed).IsChosen name key := by
  by_cases new : table.grip other = none
  · obtain ⟨claim, hc, named, keys, hs⟩ := h
    obtain ⟨_, -, -, -, ha⟩ := claims_start new claimed
    exact ⟨claim, by simp [ha, hc], named, keys, hs⟩
  · rwa [start_of_grip new]

/-- What was handed to a name stays with it until it looks again or is cancelled. -/
theorem IsChosen.step (hw : table.WellFormed) (h : table.IsChosen name key) {event : Event ν}
    (polls : event ≠ .poll name) (cancels : event ≠ .cancel name) :
    (table.step event).IsChosen name key := by
  cases event with
  | start other claimed => exact h.start other claimed
  | poll other =>
    have ne : other ≠ name := fun same => polls (same ▸ rfl)
    obtain ⟨claim, hc, rfl, rfl, hs⟩ := h
    refine ⟨claim, List.mem_map.mpr ⟨claim, hc, if_neg fun own => ne own.1.symm⟩, rfl, rfl, hs⟩
  | release other =>
    by_cases same : other = name
    · subst same
      rwa [Table.step, release_of_waits (hw.isChosen_grip h)]
    · rw [Table.step, Table.release]
      split
      case h_2 => exact h
      case h_1 claim _ =>
        split
        case isFalse => exact h
        case isTrue =>
          have given := (h.drop same).handOver claim.slot
          dsimp only
          split <;> exact given
  | cancel other =>
    have ne : other ≠ name := fun same => cancels (same ▸ rfl)
    rw [Table.step, Table.cancel]
    split
    case h_2 => exact h
    case h_1 claim _ =>
      split
      case h_1 => exact h
      case h_2 => exact (h.drop ne).handOver claim.slot
      case h_3 => exact h.drop ne

/-! ### The story of a key -/

/-- What has become of the claims to a key. A claim is known by the place of its start among the
events. -/
structure Story (ν : Type) where
  table : Table ν
  time : Nat
  /-- The start of the claim that a name has. -/
  place : ν → Nat
  begun : List Nat
  /-- The claims that came to hold the key. -/
  served : List Nat
  /-- The claims that were given up before they held the key. -/
  dropped : List Nat

/-- One event more. -/
def Story.step (key : LockKey) (story : Story ν) (event : Event ν) : Story ν :=
  let table := story.table.step event
  let before := story.table.share key event.name
  let after := table.share key event.name
  let place :=
    if before = none then Function.update story.place event.name story.time else story.place
  { table, place
    time := story.time + 1
    begun := if before = none ∧ after ≠ none then story.begun ++ [story.time] else story.begun
    served :=
      if before ≠ some true ∧ after = some true then story.served ++ [place event.name]
      else story.served
    dropped :=
      if before = some false ∧ after = none then story.dropped ++ [place event.name]
      else story.dropped }

/-- The story of a key in a run. -/
def storyOf (events : List (Event ν)) (key : LockKey) : Story ν :=
  events.foldl (Story.step key) ⟨empty, 0, fun _ => 0, [], [], []⟩

/-- The claims that were not given up, in the order of their starts. -/
def Story.kept (story : Story ν) : List Nat := story.begun.filter (· ∉ story.dropped)

/-- Of the claims that were not given up, the oldest held the key and all others wait for it. -/
structure Story.Fair (key : LockKey) (story : Story ν) : Prop where
  wellFormed : story.table.WellFormed
  queued : story.table.Queued
  past : ∀ start ∈ story.begun, start < story.time
  begins : story.dropped ⊆ story.begun
  sorted : story.begun.Pairwise (· < ·)
  order : story.kept = story.served ++ (story.table.waiters key).map story.place

variable {story : Story ν}

omit [DecidableEq ν] in
/-- The claims that came to hold the key, and those that wait for it, are different ones. -/
theorem Story.Fair.nodup (h : story.Fair key) :
    (story.served ++ (story.table.waiters key).map story.place).Nodup := by
  rw [← h.order]
  exact (h.sorted.imp Nat.ne_of_lt).sublist List.filter_sublist

omit [DecidableEq ν] in
/-- The places of those who wait are starts. -/
theorem Story.Fair.place_mem (h : story.Fair key) (waits : name ∈ story.table.waiters key) :
    story.place name ∈ story.begun := by
  have kept : story.place name ∈ story.kept := by
    rw [h.order]
    exact List.mem_append_right _ (List.mem_map_of_mem waits)
  exact (List.mem_filter.mp kept).1

theorem WellFormed.mem_waiters_iff_share (h : table.WellFormed) :
    name ∈ table.waiters key ↔ table.share key name = some false := by
  rw [h.mem_waiters, share_eq_some]

/-- One of those who wait is gone, and is missed in no other place. -/
theorem Story.Fair.order_of_leaves (h : story.Fair key) (waits : name ∈ story.table.waiters key) :
    story.kept.filter (· ≠ story.place name) =
      story.served ++ ((story.table.waiters key).filter (· != name)).map story.place := by
  have nodup := List.nodup_append.mp h.nodup
  have apart : ∀ start ∈ story.served, start ≠ story.place name := fun start hs =>
    nodup.2.2 start hs _ (List.mem_map_of_mem waits)
  rw [h.order, List.filter_append, List.filter_map, List.filter_eq_self.mpr (by simpa using apart)]
  congr 2
  refine List.filter_congr fun other ho => ?_
  have same : story.place other = story.place name ↔ other = name :=
    ⟨List.inj_on_of_nodup_map nodup.2.1 ho waits, congrArg _⟩
  simp [bne, same, beq_eq_decide]

omit [DecidableEq ν] in
/-- A claim that is started now is the last, and is not given up. -/
theorem Story.Fair.begun_snoc (h : story.Fair key) :
    (∀ start ∈ story.begun ++ [story.time], start < story.time + 1) ∧
      (story.begun ++ [story.time]).Pairwise (· < ·) ∧
      (story.begun ++ [story.time]).filter (· ∉ story.dropped) = story.kept ++ [story.time] := by
  have new : story.time ∉ story.dropped := fun hd => Nat.lt_irrefl _ (h.past _ (h.begins hd))
  refine ⟨fun start hs => ?_, ?_, ?_⟩
  · rcases List.mem_append.mp hs with hs | hs
    · exact Nat.lt_succ_of_lt (h.past start hs)
    · exact List.mem_singleton.mp hs ▸ Nat.lt_succ_self _
  · refine List.pairwise_append.mpr ⟨h.sorted, List.pairwise_singleton _ _, ?_⟩
    intro start hs last hl
    exact List.mem_singleton.mp hl ▸ h.past start hs
  · simp [kept, new]

/-- Who does not wait may get a new place. -/
theorem map_update_place {place : ν → Nat} {start : Nat} (free : name ∉ table.waiters key) :
    (table.waiters key).map (Function.update place name start) = (table.waiters key).map place := by
  refine List.map_congr_left fun other ho => Function.update_of_ne ?_ _ _
  rintro rfl
  exact free ho

/-- One event keeps a story fair. -/
theorem Story.Fair.step (h : story.Fair key) (event : Event ν) :
    (story.step key event).Fair key := by
  have wellFormed := h.wellFormed.step event
  have queued := h.queued.step h.wellFormed event
  have waits : event.name ∈ story.table.waiters key ↔
      story.table.share key event.name = some false :=
    h.wellFormed.mem_waiters_iff_share
  have later : ∀ start ∈ story.begun, start < story.time + 1 := fun start hs =>
    Nat.lt_succ_of_lt (h.past start hs)
  obtain ⟨past, sorted, kept⟩ := h.begun_snoc
  cases h.queued.shift h.wellFormed event key with
  | joins before now behind =>
    have free : event.name ∉ story.table.waiters key := by simp [waits, before]
    have next : story.step key event = ⟨story.table.step event, story.time + 1,
        Function.update story.place event.name story.time, story.begun ++ [story.time],
        story.served, story.dropped⟩ := by
      simp [Story.step, before, now]
    rw [next]
    refine ⟨wellFormed, queued, past, List.subset_append_of_subset_left _ h.begins, sorted, ?_⟩
    rw [Story.kept, kept, h.order, behind, List.map_append, map_update_place free]
    simp
  | takes before now none still =>
    have next : story.step key event = ⟨story.table.step event, story.time + 1,
        Function.update story.place event.name story.time, story.begun ++ [story.time],
        story.served ++ [story.time], story.dropped⟩ := by
      simp [Story.step, before, now]
    rw [next]
    refine ⟨wellFormed, queued, past, List.subset_append_of_subset_left _ h.begins, sorted, ?_⟩
    rw [Story.kept, kept, h.order, none, still]
    simp
  | notices before now first =>
    have next : story.step key event = ⟨story.table.step event, story.time + 1, story.place,
        story.begun, story.served ++ [story.place event.name], story.dropped⟩ := by
      simp [Story.step, before, now]
    rw [next]
    refine ⟨wellFormed, queued, later, h.begins, h.sorted, ?_⟩
    have order := h.order
    rw [first] at order
    rw [Story.kept, List.append_assoc]
    exact order
  | leaves before now rest =>
    have next : story.step key event = ⟨story.table.step event, story.time + 1, story.place,
        story.begun, story.served, story.dropped ++ [story.place event.name]⟩ := by
      simp [Story.step, before, now]
    rw [next]
    have waiting := waits.mpr before
    refine ⟨wellFormed, queued, later, ?_, h.sorted, ?_⟩
    · exact List.append_subset.mpr ⟨h.begins, by simpa using h.place_mem waiting⟩
    · rw [rest, ← h.order_of_leaves waiting, Story.kept, Story.kept, List.filter_filter]
      refine List.filter_congr fun start _ => ?_
      simp [not_or, Bool.and_comm]
  | stays now same =>
    have starts : ¬(story.table.share key event.name = none ∧
        (story.table.step event).share key event.name ≠ none) := by
      rcases now with now | ⟨before, now⟩ <;> simp [*]
    have holds : ¬(story.table.share key event.name ≠ some true ∧
        (story.table.step event).share key event.name = some true) := by
      rcases now with now | ⟨before, now⟩ <;> simp [*]
    have ends : ¬(story.table.share key event.name = some false ∧
        (story.table.step event).share key event.name = none) := by
      rcases now with now | ⟨before, now⟩ <;> simp +contextual [*]
    have place : (story.table.waiters key).map (story.step key event).place =
        (story.table.waiters key).map story.place := by
      simp only [Story.step]
      split
      case isTrue before => exact map_update_place (by simp [waits, before])
      case isFalse => rfl
    have next : story.step key event = ⟨story.table.step event, story.time + 1,
        (story.step key event).place, story.begun, story.served, story.dropped⟩ := by
      simp only [Story.step, if_neg starts, if_neg holds, if_neg ends]
    rw [next]
    refine ⟨wellFormed, queued, later, h.begins, h.sorted, ?_⟩
    rw [Story.kept, same, place]
    exact h.order

theorem storyOf_snoc (events : List (Event ν)) (event : Event ν) (key : LockKey) :
    storyOf (events ++ [event]) key = (storyOf events key).step key event := by
  simp [storyOf]

theorem table_storyOf (events : List (Event ν)) (key : LockKey) :
    (storyOf events key).table = run events := by
  induction events using List.reverseRecOn with
  | nil => rfl
  | append_singleton events event ih => rw [storyOf_snoc, run_snoc, ← ih, Story.step]

theorem fair_storyOf (events : List (Event ν)) (key : LockKey) : (storyOf events key).Fair key := by
  induction events using List.reverseRecOn with
  | nil =>
    refine ⟨wellFormed_run [], queued_run [], ?_, ?_, ?_, ?_⟩
    all_goals simp [storyOf, Story.kept, waiters, line, empty]
  | append_singleton events event ih =>
    rw [storyOf_snoc]
    exact ih.step event

/-! ### All runs -/

/-- Nobody holds a key, these names wait for it, and it was handed to the first of them. -/
def PassedTo (table : Table ν) (key : LockKey) (names : List ν) : Prop :=
  (∀ holder, table.grip holder ≠ some (key, true)) ∧ table.waiters key = names ∧
    ∀ first ∈ names.head?, table.IsChosen first key

theorem Queued.passedTo (h : table.Queued) (hw : table.WellFormed)
    (free : ∀ holder, table.grip holder ≠ some (key, true)) :
    table.PassedTo key (table.waiters key) :=
  ⟨free, rfl, h.isChosen_head hw free⟩

/-- A holder that releases its key passes it to those who wait. -/
theorem Queued.passedTo_release (h : table.Queued) (hw : table.WellFormed)
    (holds : table.grip name = some (key, true)) :
    (table.release name).PassedTo key (table.waiters key) := by
  rw [← hw.waiters_release name key]
  refine (h.release hw name).passedTo (hw.release name) fun other held => ?_
  by_cases same : other = name
  · subst same
    rw [grip_release (by simp [holds])] at held
    cases held
  · rw [grip_release_of_ne same] at held
    exact same (hw.grip_inj held holds)

/-- A name that is cancelled after its key was handed to it passes it to those who wait behind. -/
theorem Queued.passedTo_cancel (h : table.Queued) (hw : table.WellFormed)
    (chosen : table.IsChosen name key) :
    ∃ rest, table.waiters key = name :: rest ∧ (table.cancel name).PassedTo key rest := by
  obtain ⟨free, rest, first⟩ := h.of_isChosen hw chosen
  have left : (table.cancel name).waiters key = rest := by
    rw [hw.waiters_cancel, hw.filter_waiters_of_cons first]
  refine ⟨rest, first, left ▸ (h.cancel hw name).passedTo (hw.cancel name) fun other held => ?_⟩
  by_cases same : other = name
  · subst same
    rw [grip_cancel (by simp [hw.isChosen_grip chosen])] at held
    cases held
  · rw [grip_cancel_of_ne same] at held
    exact free other held

/-- A key that is free is held by the next one that starts to claim it. -/
theorem Queued.grip_start_of_free (h : table.Queued) (hw : table.WellFormed)
    (free : ∀ holder, table.grip holder ≠ some (key, true)) (none : table.waiters key = [])
    (new : table.grip name = Option.none) :
    (table.start name key).grip name = some (key, true) := by
  rcases h.waiters_start hw new key with ⟨now, -⟩ | ⟨-, some, -⟩
  · exact now
  · obtain ⟨claim, hc⟩ := List.exists_mem_of_ne_nil _ some
    obtain ⟨ha, rfl⟩ := mem_line.mp hc
    cases held : claim.standing == .held with
    | true => exact absurd ((grip_eq_some hw).mpr ⟨claim, ha, rfl, rfl, held⟩) (free _)
    | false =>
      have waits := hw.mem_waiters.mpr ((grip_eq_some hw).mpr ⟨claim, ha, rfl, rfl, held⟩)
      rw [none] at waits
      cases waits

theorem IsChosen.foldl (hw : table.WellFormed) (h : table.IsChosen name key)
    {later : List (Event ν)} (polls : .poll name ∉ later) (cancels : .cancel name ∉ later) :
    (later.foldl Table.step table).IsChosen name key := by
  induction later generalizing table with
  | nil => exact h
  | cons event rest ih =>
    obtain ⟨poll, polls⟩ := not_or.mp (List.mem_cons.not.mp polls)
    obtain ⟨cancel, cancels⟩ := not_or.mp (List.mem_cons.not.mp cancels)
    exact ih (hw.step event) (h.step hw (Ne.symm poll) (Ne.symm cancel)) polls cancels

/-- How a key is handed on after some events. -/
structure HandedOn (events : List (Event ν)) (key : LockKey) : Prop where
  /-- The key is held, or was handed to the oldest claim that waits for it. -/
  handed : (∃ holder, (run events).grip holder = some (key, true)) ∨
    (run events).PassedTo key ((run events).waiters key)
  /-- A name that was handed the key holds it after its next poll, whatever happens before. -/
  notices : ∀ name, (run events).IsChosen name key →
    ∀ later, .poll name ∉ later → .cancel name ∉ later →
      (run (events ++ later ++ [.poll name])).grip name = some (key, true)
  /-- A holder that releases the key passes it to those who wait. -/
  released : ∀ name, (run events).grip name = some (key, true) →
    (run (events ++ [.release name])).PassedTo key ((run events).waiters key)
  /-- A name that is cancelled after the key was handed to it passes it to those who wait behind. -/
  cancelled : ∀ name, (run events).IsChosen name key →
    ∃ rest, (run events).waiters key = name :: rest ∧
      (run (events ++ [.cancel name])).PassedTo key rest
  /-- A name that is cancelled leaves all others in their places. -/
  withdrawn : ∀ name, (run (events ++ [.cancel name])).waiters key =
    ((run events).waiters key).filter (· != name)
  /-- Where nobody holds the key or waits for it, a claim that is started holds it at once. -/
  free : (∀ holder, (run events).grip holder ≠ some (key, true)) → (run events).waiters key = [] →
    ∀ name, (run events).grip name = none →
      (run (events ++ [.start name key])).grip name = some (key, true)
  /-- Starts are told in their order. -/
  sorted : (storyOf events key).begun.Pairwise (· < ·)
  /-- Of the claims that were not given up, the first came to hold the key in the order of their
  starts, and the others wait for it in that order. -/
  order : (storyOf events key).kept = (storyOf events key).served ++
    ((run events).waiters key).map (storyOf events key).place

/-- After any events, no hand-over of a key is lost, and those who claim it come to hold it in the
order of their starts. -/
theorem run_handedOn (events : List (Event ν)) (key : LockKey) : HandedOn events key := by
  have hw := wellFormed_run events
  have h := queued_run events
  have fair := fair_storyOf events key
  constructor
  case handed =>
    by_cases held : ∃ holder, (run events).grip holder = some (key, true)
    · exact Or.inl held
    · exact Or.inr (h.passedTo hw (not_exists.mp held))
  case notices =>
    intro name chosen later polls cancels
    have still : (run (events ++ later)).IsChosen name key := by
      rw [run, List.foldl_append]
      exact chosen.foldl hw polls cancels
    rw [run_snoc]
    exact (wellFormed_run _).grip_poll still
  case released =>
    intro name holds
    rw [run_snoc]
    exact h.passedTo_release hw holds
  case cancelled =>
    intro name chosen
    rw [run_snoc]
    exact h.passedTo_cancel hw chosen
  case withdrawn =>
    intro name
    rw [run_snoc]
    exact hw.waiters_cancel name key
  case free =>
    intro free none name new
    rw [run_snoc]
    exact h.grip_start_of_free hw free none new
  case sorted => exact fair.sorted
  case order =>
    rw [← table_storyOf events key]
    exact fair.order

/-- Of three claims to a key, the second is cancelled after the key was handed to it; so the third
holds it next. -/
example :
    let key : LockKey := ⟨"i-1", "d-1"⟩
    let story := storyOf
      [.start 0 key, .start 1 key, .start 2 key, .release 0, .cancel 1, .poll 2] key
    story.begun = [0, 1, 2] ∧ story.served = [0, 2] ∧ story.dropped = [1] := by
  decide

end BlockVolume.Lock.Table
