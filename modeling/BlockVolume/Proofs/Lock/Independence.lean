import BlockVolume.Proofs.Lock.Waiters
/-!
Keys do not interfere.

All keys stand in one table: every start sweeps it, and a release can take an entry out. Even so, a
run makes of one key what the events of those who claim that key make of it alone. Two tables are
`Alike` for a key if the same names hold it and the same names wait for it in the same order. The
event of a name that does not claim the key leaves both as they are, and the event of a name that
claims no other key changes both in the same way.
-/

namespace BlockVolume.Lock

/-- The names that start to claim a key. -/
def claimants {ν : Type} (events : List (Event ν)) (key : LockKey) : List ν :=
  events.filterMap fun
    | .start name claimed => if claimed = key then some name else none
    | _ => none

/-- The events of the names that start to claim a key. -/
def eventsOn {ν : Type} [DecidableEq ν] (events : List (Event ν)) (key : LockKey) :
    List (Event ν) :=
  events.filter (·.name ∈ claimants events key)

theorem mem_claimants {ν : Type} {events : List (Event ν)} {key : LockKey} {name : ν} :
    name ∈ claimants events key ↔ .start name key ∈ events := by
  rw [claimants, List.mem_filterMap]
  constructor
  · rintro ⟨event, he, started⟩
    split at started
    case h_2 => cases started
    case h_1 starter claimed =>
      split at started
      case isFalse => cases started
      case isTrue same =>
        obtain rfl := Option.some.inj started
        exact same ▸ he
  · exact fun he => ⟨_, he, if_pos rfl⟩

namespace Table

variable {ν : Type} {table other : Table ν} {key : LockKey} {name : ν}

/-- Of a key, two tables have the same: who holds it, and who waits for it in which order. -/
structure Alike (table other : Table ν) (key : LockKey) [DecidableEq ν] : Prop where
  share (name : ν) : table.share key name = other.share key name
  waiters : table.waiters key = other.waiters key

variable [DecidableEq ν]

/-- A name claims no key but one. -/
def Keeps (table : Table ν) (name : ν) (key : LockKey) : Prop :=
  ∀ claimed held, table.grip name = some (claimed, held) → claimed = key

/-- A name that claims no other key has nothing of the table if it has nothing of this one. -/
theorem Keeps.grip_eq_none (h : table.Keeps name key) (free : table.share key name = none) :
    table.grip name = none := by
  refine Option.eq_none_iff_forall_ne_some.mpr fun has grip => ?_
  obtain ⟨claimed, held⟩ := has
  obtain rfl := h claimed held grip
  exact share_eq_none.mp free held grip

theorem line_eq_nil_iff (h : table.WellFormed) :
    table.line key = [] ↔ ∀ name, table.share key name = none := by
  constructor
  · intro none name
    refine share_eq_none.mpr fun held grip => ?_
    obtain ⟨claim, hc, -, keys, -⟩ := (grip_eq_some h).mp grip
    have own := mem_line.mpr ⟨hc, keys⟩
    simp [none] at own
  · intro free
    refine List.eq_nil_iff_forall_not_mem.mpr fun claim hl => ?_
    obtain ⟨hc, keys⟩ := mem_line.mp hl
    exact share_eq_none.mp (free claim.name) _ ((grip_eq_some h).mpr ⟨claim, hc, rfl, keys, rfl⟩)

/-- To whom a key was handed can be told from who holds it and who waits. -/
theorem Queued.isChosen_iff (h : table.Queued) (hw : table.WellFormed) :
    table.IsChosen name key ↔
      (∀ holder, table.share key holder ≠ some true) ∧
        (table.waiters key).head? = some name := by
  constructor
  · intro chosen
    obtain ⟨free, rest, first⟩ := h.of_isChosen hw chosen
    exact ⟨fun holder => share_eq_some.not.mpr (free holder), by rw [first, List.head?_cons]⟩
  · rintro ⟨free, first⟩
    exact h.isChosen_head hw (fun holder => share_eq_some.not.mp (free holder)) name first

theorem Alike.isChosen_iff (alike : Alike table other key) (h : table.Queued)
    (hw : table.WellFormed) (ho : other.Queued) (hwo : other.WellFormed) :
    table.IsChosen name key ↔ other.IsChosen name key := by
  simp only [h.isChosen_iff hw, ho.isChosen_iff hwo, alike.share, alike.waiters]

/-! ### Events of others -/

/-- The event of a name does not concern what another has. -/
theorem share_step_of_ne (event : Event ν) (ne : name ≠ event.name) :
    (table.step event).share key name = table.share key name := by
  have grip : (table.step event).grip name = table.grip name := by
    cases event with
    | start own claimed => exact grip_start_of_ne ne
    | poll own =>
      rw [Table.step, Table.grip, Table.grip, claim?_poll]
      cases hf : table.claim? name with
      | none => rfl
      | some claim =>
        have named : claim.name = name := by simpa using List.find?_some hf
        simp [named, show name ≠ own from ne]
    | release own => exact grip_release_of_ne ne
    | cancel own => exact grip_cancel_of_ne ne
  rw [share, share, grip]

/-- A name that has nothing of a key gets nothing of it but by a start. -/
theorem share_step_of_free (event : Event ν) (free : table.share key event.name = none)
    (apart : event ≠ .start event.name key) :
    (table.step event).share key event.name = none := by
  cases event with
  | start name claimed =>
    by_cases new : table.grip name = none
    · obtain ⟨held, now⟩ := grip_start claimed new
      have ne : claimed ≠ key := fun same => apart (same ▸ rfl)
      simp [Table.step, share, now, ne, Event.name]
    · rwa [Table.step, start_of_grip new]
  | poll name =>
    refine share_eq_none.mpr fun held now => ?_
    obtain ⟨before, has, -⟩ := grip_of_poll now
    exact share_eq_none.mp free before has
  | release name =>
    by_cases waits : ∃ claimed, table.grip name = some (claimed, false)
    · rwa [Table.step, release_of_waits waits.choose_spec]
    · exact share_of_grip_none (grip_release (not_exists.mp waits))
  | cancel name =>
    by_cases holds : ∃ claimed, table.grip name = some (claimed, true)
    · rwa [Table.step, cancel_of_holds holds.choose_spec]
    · exact share_of_grip_none (grip_cancel (not_exists.mp holds))

/-- The event of a name that has nothing of a key, and does not start to claim it, leaves the key to
those who have it. -/
theorem Queued.alike_step (h : table.Queued) (hw : table.WellFormed) (event : Event ν)
    (free : table.share key event.name = none) (apart : event ≠ .start event.name key) :
    Alike (table.step event) table key := by
  have now := share_step_of_free event free apart
  constructor
  case share =>
    intro name
    by_cases own : name = event.name
    · rw [own, now, free]
    · exact share_step_of_ne event own
  case waiters =>
    cases h.shift hw event key with
    | joins _ joined _ => exact absurd (now.symm.trans joined) (by simp)
    | takes _ taken _ _ => exact absurd (now.symm.trans taken) (by simp)
    | notices before _ _ => exact absurd (free.symm.trans before) (by simp)
    | leaves before _ _ => exact absurd (free.symm.trans before) (by simp)
    | stays _ waiters => exact waiters

/-! ### Events of those who claim the key -/

/-- What a name has after its event, and who waits then, tell what the event makes of a key. -/
theorem Alike.of_own (alike : Alike table other key) (event : Event ν)
    (own : (table.step event).share key event.name = (other.step event).share key event.name)
    (waiters : (table.step event).waiters key = (other.step event).waiters key) :
    Alike (table.step event) (other.step event) key := by
  refine ⟨fun name => ?_, waiters⟩
  by_cases same : name = event.name
  · rw [same, own]
  · rw [share_step_of_ne event same, share_step_of_ne event same, alike.share]

/-- An event by which a name gives up what it has of a key, unless it has it in one way: a release
leaves a place in the line, and a cancel leaves the lock. -/
theorem Alike.giveUp (alike : Alike table other key) (event : Event ν) (held : Bool)
    (keeps : table.Keeps event.name key) (keepsOther : other.Keeps event.name key)
    (stays : ∀ {table : Table ν}, table.grip event.name = some (key, held) →
      table.step event = table)
    (leaves : ∀ {table : Table ν}, (∀ claimed, table.grip event.name ≠ some (claimed, held)) →
      (table.step event).grip event.name = none)
    (waiters : (table.step event).waiters key = (other.step event).waiters key) :
    Alike (table.step event) (other.step event) key := by
  by_cases has : table.share key event.name = some held
  · have hasO : other.share key event.name = some held := alike.share event.name ▸ has
    rw [stays (share_eq_some.mp has), stays (share_eq_some.mp hasO)]
    exact alike
  · have gone : (table.step event).grip event.name = none := leaves fun claimed grip =>
      has (share_eq_some.mpr (keeps _ _ grip ▸ grip))
    have goneO : (other.step event).grip event.name = none := leaves fun claimed grip =>
      has (alike.share event.name ▸ share_eq_some.mpr (keepsOther _ _ grip ▸ grip))
    exact alike.of_own event ((share_of_grip_none gone).trans (share_of_grip_none goneO).symm)
      waiters

variable (h : table.Queued) (hw : table.WellFormed) (ho : other.Queued) (hwo : other.WellFormed)
include h hw ho hwo

theorem Alike.start (alike : Alike table other key) (keeps : table.Keeps name key)
    (keepsOther : other.Keeps name key) :
    Alike (table.step (.start name key)) (other.step (.start name key)) key := by
  by_cases free : table.share key name = none
  · have new := keeps.grip_eq_none free
    have newOther := keepsOther.grip_eq_none (alike.share name ▸ free)
    have lines : table.line key = [] ↔ other.line key = [] := by
      simp only [line_eq_nil_iff hw, line_eq_nil_iff hwo, alike.share]
    rcases h.waiters_start hw new key with ⟨now, none, still⟩ | ⟨now, some, behind⟩
    · rcases ho.waiters_start hwo newOther key with ⟨nowO, -, stillO⟩ | ⟨-, someO, -⟩
      · exact alike.of_own (.start name key)
          ((share_eq_some.mpr now).trans (share_eq_some.mpr nowO).symm) (still.trans stillO.symm)
      · exact absurd (lines.mp none) someO
    · rcases ho.waiters_start hwo newOther key with ⟨-, noneO, -⟩ | ⟨nowO, -, behindO⟩
      · exact absurd (lines.mpr noneO) some
      · refine alike.of_own (.start name key)
          ((share_eq_some.mpr now).trans (share_eq_some.mpr nowO).symm) ?_
        rw [Table.step, behind, Table.step, behindO, alike.waiters]
  · have old : ∀ {table : Table ν}, table.share key name ≠ none → table.grip name ≠ none :=
      fun has none => has (share_of_grip_none none)
    rw [Table.step, start_of_grip (old free), Table.step,
      start_of_grip (old (alike.share name ▸ free))]
    exact alike

theorem Alike.poll (alike : Alike table other key) (keeps : table.Keeps name key)
    (keepsOther : other.Keeps name key) :
    Alike (table.step (.poll name)) (other.step (.poll name)) key := by
  have same : table.IsChosen name key ↔ other.IsChosen name key :=
    alike.isChosen_iff h hw ho hwo
  by_cases chosen : table.IsChosen name key
  · have chosenO := same.mp chosen
    refine alike.of_own (.poll name) ((share_eq_some.mpr (hw.grip_poll chosen)).trans
      (share_eq_some.mpr (hwo.grip_poll chosenO)).symm) ?_
    rw [Table.step, hw.waiters_poll chosen, Table.step, hwo.waiters_poll chosenO, alike.waiters]
  · have still : table.poll name = table := poll_of_not_isChosen fun claimed has =>
      chosen (keeps _ _ (hw.isChosen_grip has) ▸ has)
    have stillO : other.poll name = other := poll_of_not_isChosen fun claimed has =>
      chosen (same.mpr (keepsOther _ _ (hwo.isChosen_grip has) ▸ has))
    rw [Table.step, still, Table.step, stillO]
    exact alike

omit h ho in
theorem Alike.release (alike : Alike table other key) (keeps : table.Keeps name key)
    (keepsOther : other.Keeps name key) :
    Alike (table.step (.release name)) (other.step (.release name)) key := by
  refine alike.giveUp (.release name) false keeps keepsOther release_of_waits grip_release ?_
  rw [Table.step, hw.waiters_release, Table.step, hwo.waiters_release, alike.waiters]

omit h ho in
theorem Alike.cancel (alike : Alike table other key) (keeps : table.Keeps name key)
    (keepsOther : other.Keeps name key) :
    Alike (table.step (.cancel name)) (other.step (.cancel name)) key := by
  refine alike.giveUp (.cancel name) true keeps keepsOther cancel_of_holds grip_cancel ?_
  rw [Table.step, hw.waiters_cancel, Table.step, hwo.waiters_cancel, alike.waiters]

/-- The event of a name that claims no other key makes the same of alike tables. -/
theorem Alike.step (alike : Alike table other key) (event : Event ν)
    (keeps : table.Keeps event.name key) (keepsOther : other.Keeps event.name key)
    (single : ∀ claimed, event = .start event.name claimed → claimed = key) :
    Alike (table.step event) (other.step event) key := by
  cases event with
  | start name claimed =>
    obtain rfl := single claimed rfl
    exact alike.start h hw ho hwo keeps keepsOther
  | poll name => exact alike.poll h hw ho hwo keeps keepsOther
  | release name => exact alike.release hw hwo keeps keepsOther
  | cancel name => exact alike.cancel hw hwo keeps keepsOther

omit h hw ho hwo

/-! ### All runs -/

/-- What a name claims after some events, it started to claim in one of them. -/
theorem started_of_grip {events : List (Event ν)} {held : Bool}
    (has : (run events).grip name = some (key, held)) : .start name key ∈ events := by
  induction events using List.reverseRecOn generalizing held with
  | nil => simp [run, empty, grip, claim?] at has
  | append_singleton events event ih =>
    rw [run_snoc] at has
    by_cases before : (run events).share key name = none
    · -- the last event gave the name its claim, so it is its start
      have own : name = event.name := by
        by_contra ne
        rw [← share_eq_some, share_step_of_ne event ne, before] at has
        cases has
      subst own
      have starts : event = .start event.name key := by
        by_contra apart
        exact share_eq_none.mp (share_step_of_free event before apart) held has
      exact List.mem_append_right _ (List.mem_singleton.mpr starts.symm)
    · obtain ⟨earlier, had⟩ := Option.ne_none_iff_exists'.mp before
      exact List.mem_append_left _ (ih (share_eq_some.mp had))

/-- Events leave a key alike if those are left out that are of names which claim other keys. -/
theorem alike_run_filter (events : List (Event ν)) (own : ν → Bool)
    (single : ∀ name claimed, .start name claimed ∈ events → (own name = true ↔ claimed = key)) :
    Alike (run events) (run (events.filter (own ·.name))) key := by
  induction events using List.reverseRecOn with
  | nil => exact ⟨fun _ => rfl, rfl⟩
  | append_singleton events event ih =>
    have last : event ∈ events ++ [event] := by simp
    have alike := ih fun name claimed he => single name claimed (List.mem_append_left _ he)
    have starts : ∀ name claimed held, (run events).grip name = some (claimed, held) →
        (own name = true ↔ claimed = key) := fun name claimed held has =>
      single name claimed (List.mem_append_left _ (started_of_grip has))
    have queued := queued_run events
    have wellFormed := wellFormed_run events
    rw [run_snoc]
    by_cases mine : own event.name = true
    · have kept : (events ++ [event]).filter (own ·.name) =
          events.filter (own ·.name) ++ [event] := by
        simp [mine]
      rw [kept, run_snoc]
      refine alike.step queued wellFormed (queued_run _) (wellFormed_run _) event ?_ ?_ ?_
      · exact fun claimed held has => (starts event.name claimed held has).mp mine
      · intro claimed held has
        have started := (List.mem_filter.mp (started_of_grip has)).1
        exact (single event.name claimed (List.mem_append_left _ started)).mp mine
      · exact fun claimed start => (single event.name claimed (start ▸ last)).mp mine
    · have left : (events ++ [event]).filter (own ·.name) = events.filter (own ·.name) := by
        simp [mine]
      rw [left]
      have free : (run events).share key event.name = none :=
        share_eq_none.mpr fun held has => mine ((starts event.name key held has).mpr rfl)
      have apart : event ≠ .start event.name key := fun start =>
        mine ((single event.name key (start ▸ last)).mpr rfl)
      have same := queued.alike_step wellFormed event free apart
      exact ⟨fun name => (same.share name).trans (alike.share name),
        same.waiters.trans alike.waiters⟩

/-- Where no name is used for two keys, each key goes its own way: who holds it after any events,
who waits for it, in which order, and to whom it was handed is what the events of those who claim it
make of it alone. -/
theorem run_eventsOn (events : List (Event ν)) (key : LockKey)
    (single : ∀ name claimed other, .start name claimed ∈ events → .start name other ∈ events →
      claimed = other) :
    (∀ name, (run events).grip name = some (key, true) ↔
        (run (eventsOn events key)).grip name = some (key, true)) ∧
      (run events).waiters key = (run (eventsOn events key)).waiters key ∧
      ∀ name, (run events).IsChosen name key ↔ (run (eventsOn events key)).IsChosen name key := by
  have alike : Alike (run events) (run (eventsOn events key)) key := by
    refine alike_run_filter events (fun name => name ∈ claimants events key) ?_
    intro name claimed started
    rw [decide_eq_true_iff, mem_claimants]
    exact ⟨fun own => single name claimed key started own, fun same => same ▸ started⟩
  refine ⟨fun name => ?_, alike.waiters, fun name => ?_⟩
  · rw [← share_eq_some, alike.share, share_eq_some]
  · exact alike.isChosen_iff (queued_run _) (wellFormed_run _) (queued_run _) (wellFormed_run _)

/-- Two keys of one display text, each held and waited for: one is handed on, and the other is
waited for as before. -/
theorem run_eventsOn_of_keyText_eq :
    let key : LockKey := ⟨"a/b", "c"⟩
    let twin : LockKey := ⟨"a", "b/c"⟩
    let events : List (Event Nat) := [.start 0 key, .start 1 twin, .start 2 key, .start 3 twin,
      .release 1, .start 4 twin, .poll 3, .start 5 key]
    keyText key = keyText twin ∧ (run events).waiters key = [2, 5] ∧
      (run (eventsOn events key)).waiters key = [2, 5] ∧
      (∀ name, (run events).grip name = some (key, true) ↔
        (run (eventsOn events key)).grip name = some (key, true)) := by
  intro key twin events
  have single : ∀ name claimed other, .start name claimed ∈ events →
      .start name other ∈ events → claimed = other := by
    intro name claimed other first second
    simp only [events, List.mem_cons, Event.start.injEq, reduceCtorEq, false_or, or_false,
      List.not_mem_nil] at first second
    grind
  obtain ⟨holds, waits, -⟩ := run_eventsOn events key single
  have waiters : (run events).waiters key = [2, 5] := by decide
  exact ⟨by decide, waiters, waits ▸ waiters, holds⟩

end Table
end BlockVolume.Lock
