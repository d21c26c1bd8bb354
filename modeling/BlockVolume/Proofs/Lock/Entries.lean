import BlockVolume.Proofs.Lock.Turns
import Mathlib.Data.List.Induction
/-!
What stands in the lock table.

A start sweeps the table, so afterwards it holds the keys that are claimed and no other. A release
takes the entry away that it leaves unclaimed. Only a cancelled claim can leave an entry behind, if
it was the last to its key; that entry stays until the next claim is started.
-/

namespace BlockVolume.Lock.Table

variable {ν : Type} {table : Table ν} {key other : LockKey} {slot : Nat}

/-- The table has an entry for a key. -/
def Tracks (table : Table ν) (key : LockKey) : Prop := key ∈ table.entries.map Prod.fst

/-- A key is held or waited for. -/
def Claimed (table : Table ν) (key : LockKey) : Prop := ∃ claim ∈ table.claims, claim.key = key

theorem tracks_iff : table.Tracks key ↔ ∃ slot, (key, slot) ∈ table.entries := by
  simp [Tracks]

/-- What is claimed is held or waited for. -/
theorem claimed_iff : table.Claimed key ↔
    (∃ claim ∈ table.held, claim.key = key) ∨ ∃ claim ∈ table.waiting, claim.key = key := by
  constructor
  · rintro ⟨claim, hc, rfl⟩
    by_cases held : claim.standing = .held
    · exact Or.inl ⟨claim, List.mem_filter.mpr ⟨hc, by simp [held]⟩, rfl⟩
    · exact Or.inr ⟨claim, List.mem_filter.mpr ⟨hc, by simpa using held⟩, rfl⟩
  · rintro (⟨claim, hc, rfl⟩ | ⟨claim, hc, rfl⟩)
    · exact ⟨claim, (List.mem_filter.mp hc).1, rfl⟩
    · exact ⟨claim, (List.mem_filter.mp hc).1, rfl⟩

theorem claimed_iff_turns : table.Claimed key ↔ key ∈ table.turns.map Prod.snd := by
  simp [Claimed, turns]

theorem WellFormed.tracks (h : table.WellFormed) (claimed : table.Claimed key) :
    table.Tracks key := by
  obtain ⟨claim, hc, rfl⟩ := claimed
  exact List.mem_map.mpr ⟨claim.entry, h.entered claim hc, rfl⟩

theorem claimed_handOver (table : Table ν) (slot : Nat) (key : LockKey) :
    (table.handOver slot).Claimed key ↔ table.Claimed key := by
  rw [claimed_iff_turns, claimed_iff_turns, turns_handOver]

/-! ### References to an entry -/

/-- The claims to a key are those to its slot. -/
theorem WellFormed.slot_eq_iff (h : table.WellFormed) (he : (key, slot) ∈ table.entries)
    {claim : Claim ν} (hc : claim ∈ table.claims) : claim.slot = slot ↔ claim.key = key := by
  have entered := h.entered claim hc
  constructor
  · intro same
    have entries : claim.entry = (key, slot) := List.inj_on_of_nodup_map h.slots entered he same
    exact congrArg Prod.fst entries
  · intro same
    have entries : claim.entry = (key, slot) := List.inj_on_of_nodup_map h.keys entered he same
    exact congrArg Prod.snd entries

/-- One entry refers to a slot, so more than one reference to it means a claim to its key. -/
theorem WellFormed.one_lt_references_iff (h : table.WellFormed) (he : (key, slot) ∈ table.entries) :
    1 < table.references slot ↔ table.Claimed key := by
  have once : table.entries.countP (·.2 == slot) = 1 := by
    have count := List.count_eq_one_of_mem h.slots (List.mem_map.mpr ⟨_, he, rfl⟩)
    rwa [List.count, List.countP_map] at count
  have many : 1 < table.references slot ↔ 0 < table.claims.countP (·.slot == slot) := by
    rw [references, once]
    omega
  rw [many, List.countP_pos_iff]
  constructor
  · rintro ⟨claim, hc, same⟩
    exact ⟨claim, hc, (h.slot_eq_iff he hc).mp (by simpa using same)⟩
  · rintro ⟨claim, hc, same⟩
    exact ⟨claim, hc, by simpa using (h.slot_eq_iff he hc).mpr same⟩

/-- A sweep leaves the entries of the keys that are claimed. -/
theorem WellFormed.tracks_sweep (h : table.WellFormed) :
    table.sweep.Tracks key ↔ table.Claimed key := by
  constructor
  · intro tracked
    obtain ⟨slot, he⟩ := tracks_iff.mp tracked
    obtain ⟨he, kept⟩ := List.mem_filter.mp he
    exact (h.one_lt_references_iff he).mp (by simpa using kept)
  · exact fun claimed => h.sweep.tracks claimed

theorem tracks_slotOf (table : Table ν) (key other : LockKey) :
    (table.slotOf key).1.Tracks other ↔ table.Tracks other ∨ other = key := by
  rw [slotOf]
  split
  case h_1 slot found =>
    refine ⟨Or.inl, ?_⟩
    rintro (tracked | rfl)
    · exact tracked
    · exact tracks_iff.mpr ⟨slot, mem_of_lookup found⟩
  case h_2 => simp [Tracks]

theorem tracks_erase (table : Table ν) (key other : LockKey) :
    Tracks { table with entries := table.entries.filter fun (key, _) => key != other } key ↔
      table.Tracks key ∧ key ≠ other := by
  simp only [Tracks, List.mem_map, List.mem_filter]
  constructor
  · rintro ⟨entry, ⟨he, ne⟩, rfl⟩
    exact ⟨⟨entry, he, rfl⟩, bne_iff_ne.mp ne⟩
  · rintro ⟨⟨entry, he, rfl⟩, ne⟩
    exact ⟨entry, ⟨he, bne_iff_ne.mpr ne⟩, rfl⟩

variable [DecidableEq ν] {name : ν}

/-! ### Left-over entries -/

/-- A key stands in the table although nobody claims it. -/
def LeftOver (table : Table ν) (key : LockKey) : Prop := table.Tracks key ∧ ¬table.Claimed key

/-- A name waits for a key that no other claims. -/
def LastWaiter (table : Table ν) (name : ν) (key : LockKey) : Prop :=
  ∃ claim ∈ table.waiting, claim.name = name ∧ claim.key = key ∧
    ∀ other ∈ table.claims, other.key = key → other = claim

/-- An event starts a new claim. -/
def begins (table : Table ν) : Event ν → Bool
  | .start name _ => (table.claim? name).isNone
  | _ => false

theorem claimed_drop (table : Table ν) (name : ν) (key : LockKey) :
    (table.drop name).Claimed key ↔
      ∃ claim ∈ table.claims, claim.name ≠ name ∧ claim.key = key := by
  simp [Claimed, drop, and_assoc]

/-! ### One event -/

/-- After a start, the keys of the table are those that are claimed. -/
theorem WellFormed.tracks_start (h : table.WellFormed) (new : table.claim? name = none) :
    (table.start name key).Tracks other ↔ (table.start name key).Claimed other := by
  refine ⟨fun tracked => ?_, (h.start name key).tracks⟩
  rw [Table.start, if_neg (by simp [new])] at tracked ⊢
  have same : (table.sweep.slotOf key).1.claims = table.claims := claims_slotOf _ key
  have entered := tracks_slotOf table.sweep key other
  rcases hs : table.sweep.slotOf key with ⟨swept, slot⟩
  rw [hs] at same entered tracked
  rcases entered.mp tracked with tracked | rfl
  · obtain ⟨claim, hc, rfl⟩ := h.tracks_sweep.mp tracked
    exact ⟨claim, List.mem_append_left _ (same ▸ hc), rfl⟩
  · exact ⟨_, List.mem_append_right _ List.mem_cons_self, rfl⟩

theorem leftOver_poll (table : Table ν) (name : ν) (key : LockKey) :
    (table.poll name).LeftOver key ↔ table.LeftOver key := by
  rw [LeftOver, LeftOver, claimed_iff_turns, claimed_iff_turns, turns_poll]
  rfl

/-- A release takes the entry of its key along, unless others claim it. -/
theorem WellFormed.leftOver_release (h : table.WellFormed) (name : ν) (key : LockKey) :
    (table.release name).LeftOver key ↔ table.LeftOver key := by
  rw [Table.release]
  split
  case h_2 => exact Iff.rfl
  case h_1 claim hf =>
    have hc : claim ∈ table.claims := List.mem_of_find?_eq_some hf
    have hn : claim.name = name := by simpa using List.find?_some hf
    subst hn
    split
    case isFalse => exact Iff.rfl
    case isTrue held =>
      have given := (h.drop claim.name).handOver (h.free_of_drop hc (by simp [held]))
      have found := lookup_of_mem given.keys (h.entered claim hc)
      have alone := not_congr (given.one_lt_references_iff (h.entered claim hc))
      have left (key : LockKey) : ((table.drop claim.name).handOver claim.slot).Claimed key ↔
          ∃ other ∈ table.claims, other.name ≠ claim.name ∧ other.key = key := by
        rw [claimed_handOver, claimed_drop]
      -- the entry of the claim is kept just if its key is still claimed
      have kept : ((table.drop claim.name).handOver claim.slot).LeftOver key ∧ key ≠ claim.key ↔
          table.LeftOver key := by
        rw [LeftOver, left, LeftOver]
        constructor
        · rintro ⟨⟨tracked, free⟩, ne⟩
          refine ⟨tracked, ?_⟩
          rintro ⟨other, ho, rfl⟩
          exact free ⟨other, ho, fun same => ne (h.eq_of_name ho hc same ▸ rfl), rfl⟩
        · rintro ⟨tracked, free⟩
          refine ⟨⟨tracked, ?_⟩, ?_⟩
          · rintro ⟨other, ho, -, same⟩
            exact free ⟨other, ho, same⟩
          · rintro rfl
            exact free ⟨claim, hc, rfl⟩
      dsimp only
      split
      case isTrue =>
        rw [← kept, LeftOver, LeftOver, tracks_erase, and_right_comm]
        rfl
      case isFalse stays =>
        have others : ((table.drop claim.name).handOver claim.slot).Claimed claim.key := by
          by_contra free
          have few := alone.mpr free
          exact stays ⟨by omega, found⟩
        rw [← kept, iff_self_and]
        rintro ⟨-, free⟩ rfl
        exact free others

theorem WellFormed.leftOver_cancel (h : table.WellFormed) (name : ν) (key : LockKey) :
    (table.cancel name).LeftOver key ↔ table.LeftOver key ∨ table.LastWaiter name key := by
  cases hf : table.claim? name with
  | none =>
    have absent : ¬table.LastWaiter name key := by
      rintro ⟨claim, hc, named, -⟩
      exact List.find?_eq_none.mp hf claim (List.mem_filter.mp hc).1 (by simpa using named)
    simp [Table.cancel, hf, absent]
  | some claim =>
    have hc : claim ∈ table.claims := List.mem_of_find?_eq_some hf
    have hn : claim.name = name := by simpa using List.find?_some hf
    subst hn
    by_cases held : claim.standing = .held
    · have absent : ¬table.LastWaiter claim.name key := by
        rintro ⟨other, ho, named, -⟩
        obtain ⟨ho, waits⟩ := List.mem_filter.mp ho
        rw [h.eq_of_name ho hc named, held] at waits
        cases waits
      simp [Table.cancel, hf, held, absent]
    · have waits : claim ∈ table.waiting := List.mem_filter.mpr ⟨hc, by simpa using held⟩
      -- the entries are what they were, and one claim is gone
      have left : (table.cancel claim.name).LeftOver key ↔ table.Tracks key ∧
          ¬∃ other ∈ table.claims, other.name ≠ claim.name ∧ other.key = key := by
        rw [Table.cancel, hf]
        dsimp only
        split
        case h_1 hs => exact absurd hs held
        case h_2 =>
          rw [LeftOver, claimed_handOver, claimed_drop]
          rfl
        case h_3 =>
          rw [LeftOver, claimed_drop]
          rfl
      rw [left]
      constructor
      · rintro ⟨tracked, free⟩
        by_cases claimed : table.Claimed key
        · obtain ⟨last, hl, rfl⟩ := claimed
          have own : ∀ other ∈ table.claims, other.key = last.key → other = claim := by
            intro other ho same
            by_contra ne
            exact free ⟨other, ho, fun named => ne (h.eq_of_name ho hc named), same⟩
          obtain rfl := own last hl rfl
          exact Or.inr ⟨last, waits, rfl, rfl, own⟩
        · exact Or.inl ⟨tracked, claimed⟩
      · rintro (⟨tracked, free⟩ | ⟨last, hl, named, rfl, own⟩)
        · refine ⟨tracked, ?_⟩
          rintro ⟨other, ho, -, same⟩
          exact free ⟨other, ho, same⟩
        · refine ⟨h.tracks ⟨last, (List.mem_filter.mp hl).1, rfl⟩, ?_⟩
          rintro ⟨other, ho, ne, same⟩
          exact ne (own other ho same ▸ named)

/-- What one event leaves over: nothing, if it starts a claim; else what was left over before, and
the key of a claim that is cancelled as the last one. -/
theorem WellFormed.leftOver_step (h : table.WellFormed) (event : Event ν) (key : LockKey) :
    (table.step event).LeftOver key ↔ (table.begins event = false ∧ table.LeftOver key) ∨
      ∃ name, event = .cancel name ∧ table.LastWaiter name key := by
  cases event with
  | start name claimed =>
    cases new : table.claim? name with
    | none =>
      have swept : ¬(table.start name claimed).LeftOver key := by
        rintro ⟨tracked, free⟩
        exact free ((h.tracks_start new).mp tracked)
      simp [Table.step, begins, new, swept]
    | some claim => simp [Table.step, begins, new, Table.start]
  | poll name => simp [Table.step, begins, leftOver_poll]
  | release name => simp [Table.step, begins, h.leftOver_release]
  | cancel name => simp [Table.step, begins, h.leftOver_cancel]

/-! ### All runs -/

/-- A key is abandoned when the last to wait for it is cancelled, and until a claim is started. -/
inductive Abandoned (key : LockKey) : List (Event ν) → Prop where
  | cancelled {events : List (Event ν)} {name : ν} :
      (run events).LastWaiter name key → Abandoned key (events ++ [.cancel name])
  | unswept {events : List (Event ν)} {event : Event ν} :
      Abandoned key events → (run events).begins event = false → Abandoned key (events ++ [event])

theorem run_snoc (events : List (Event ν)) (event : Event ν) :
    run (events ++ [event]) = (run events).step event := by
  simp [run]

theorem abandoned_snoc {events : List (Event ν)} {event : Event ν} :
    Abandoned key (events ++ [event]) ↔
      ((run events).begins event = false ∧ Abandoned key events) ∨
        ∃ name, event = .cancel name ∧ (run events).LastWaiter name key := by
  constructor
  · intro h
    generalize whole : events ++ [event] = all at h
    cases h with
    | cancelled last =>
      obtain ⟨rfl, rfl⟩ := List.append_inj' whole rfl |>.imp_right (List.cons.inj · |>.1)
      exact Or.inr ⟨_, rfl, last⟩
    | unswept before quiet =>
      obtain ⟨rfl, rfl⟩ := List.append_inj' whole rfl |>.imp_right (List.cons.inj · |>.1)
      exact Or.inl ⟨quiet, before⟩
  · rintro (⟨quiet, before⟩ | ⟨name, rfl, last⟩)
    · exact .unswept before quiet
    · exact .cancelled last

/-- What is left over in a reachable table is what was abandoned. -/
theorem leftOver_run (events : List (Event ν)) (key : LockKey) :
    (run events).LeftOver key ↔ Abandoned key events := by
  induction events using List.reverseRecOn with
  | nil =>
    have none : ¬Abandoned key ([] : List (Event ν)) := by
      intro h
      generalize whole : ([] : List (Event ν)) = all at h
      cases h <;> simp at whole
    simp [none, LeftOver, Tracks, run, empty]
  | append_singleton events event ih =>
    rw [run_snoc, (wellFormed_run events).leftOver_step, abandoned_snoc, ih]

/-- After any events, the table has an entry for a key exactly if the key is held or waited for, or
was abandoned; and it is empty exactly if there is no such key. -/
theorem run_tracks_iff (events : List (Event ν)) :
    (∀ key, (run events).Tracks key ↔ (∃ claim ∈ (run events).held, claim.key = key) ∨
      (∃ claim ∈ (run events).waiting, claim.key = key) ∨ Abandoned key events) ∧
    ((run events).size = 0 ↔
      (run events).held = [] ∧ (run events).waiting = [] ∧ ∀ key, ¬Abandoned key events) := by
  have keys (key : LockKey) : (run events).Tracks key ↔
      (∃ claim ∈ (run events).held, claim.key = key) ∨
        (∃ claim ∈ (run events).waiting, claim.key = key) ∨ Abandoned key events := by
    rw [← leftOver_run, ← or_assoc, ← claimed_iff]
    constructor
    · intro tracked
      by_cases claimed : (run events).Claimed key
      · exact Or.inl claimed
      · exact Or.inr ⟨tracked, claimed⟩
    · rintro (claimed | left)
      · exact (wellFormed_run events).tracks claimed
      · exact left.1
  refine ⟨keys, ?_⟩
  have none : (run events).size = 0 ↔ ∀ key, ¬(run events).Tracks key := by
    rw [size, List.length_eq_zero_iff, ← List.map_eq_nil_iff, List.eq_nil_iff_forall_not_mem]
    rfl
  simp only [none, keys, not_or, forall_and, List.eq_nil_iff_forall_not_mem]
  constructor
  · rintro ⟨held, waiting, abandoned⟩
    exact ⟨fun claim hc => held claim.key ⟨claim, hc, rfl⟩,
      fun claim hc => waiting claim.key ⟨claim, hc, rfl⟩, abandoned⟩
  · rintro ⟨held, waiting, abandoned⟩
    refine ⟨?_, ?_, abandoned⟩
    · rintro key ⟨claim, hc, -⟩
      exact held claim hc
    · rintro key ⟨claim, hc, -⟩
      exact waiting claim hc

/-- A key that is held, then waited for, released, and given up by the one who waits. -/
def givenUp : List (Event Nat) :=
  [.start 0 ⟨"i-1", "d-1"⟩, .start 1 ⟨"i-1", "d-1"⟩, .release 0, .cancel 1]

/-- Nobody holds the key or waits for it, and its entry still stands. -/
theorem givenUp_tracked :
    (run givenUp).held = [] ∧ (run givenUp).waiting = [] ∧ (run givenUp).size = 1 := by
  decide

end BlockVolume.Lock.Table
