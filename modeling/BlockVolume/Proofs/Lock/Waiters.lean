import BlockVolume.Proofs.Lock.Entries
/-!
Those who wait for a key.

In a reachable table the claims to a key form one line: its first claim has the slot, as it holds it
or was handed it, and all behind it wait. An event moves the line in one of five ways, which
`Shift` lists; only the name of the event moves.
-/

namespace BlockVolume.Lock

/-- The name that an event is about. -/
def Event.name {ν : Type} : Event ν → ν
  | .start name _ | .poll name | .release name | .cancel name => name

namespace Table

variable {ν : Type} {table : Table ν} {key : LockKey} {name : ν}

/-- The claims to a key, the oldest first. -/
def line (table : Table ν) (key : LockKey) : List (Claim ν) := table.claims.filter (·.key == key)

/-- The names that claim a key and do not hold it, the oldest claim first. -/
def waiters (table : Table ν) (key : LockKey) : List ν :=
  ((table.line key).filter (·.standing != .held)).map Claim.name

/-- A name was handed the key that it waits for, and has not noticed. -/
def IsChosen (table : Table ν) (name : ν) (key : LockKey) : Prop :=
  ∃ claim ∈ table.claims, claim.name = name ∧ claim.key = key ∧ claim.standing = .chosen

theorem mem_line {claim : Claim ν} :
    claim ∈ table.line key ↔ claim ∈ table.claims ∧ claim.key = key := by
  simp [line]

/-! ### The line of a key -/

/-- What is claimed has an owner, which holds it or was handed it. -/
theorem Queued.exists_owner (h : table.Queued) (hw : table.WellFormed) {claim : Claim ν}
    (hc : claim ∈ table.claims) :
    ∃ owner ∈ table.claims, owner.key = claim.key ∧ owner.standing ≠ .waiting := by
  obtain ⟨owner, ho, slots, has⟩ := h.served claim hc
  exact ⟨owner, ho, (hw.slot_eq_iff (hw.entered claim hc) ho).mp slots, has⟩

/-- The owner of a key is the first in its line, and all others wait. -/
theorem Queued.line_of_owner (h : table.Queued) (hw : table.WellFormed) {owner : Claim ν}
    (ho : owner ∈ table.claims) (has : owner.standing ≠ .waiting) :
    ∃ rest, table.line owner.key = owner :: rest ∧ ∀ claim ∈ rest, claim.standing = .waiting := by
  have behind := h.behind.sublist (List.filter_sublist (p := (·.key == owner.key)))
  have slots : ∀ claim ∈ table.line owner.key, claim.slot = owner.slot := fun claim hc =>
    (hw.slot_eq_iff (hw.entered owner ho) (mem_line.mp hc).1).mpr (mem_line.mp hc).2
  cases hl : table.line owner.key with
  | nil => exact absurd (mem_line.mpr ⟨ho, rfl⟩) (by simp [hl])
  | cons first rest =>
    rw [hl] at slots
    rw [show table.claims.filter (·.key == owner.key) = first :: rest from hl] at behind
    have waits : ∀ claim ∈ rest, claim.standing = .waiting := fun claim hc =>
      (List.pairwise_cons.mp behind).1 claim hc
        ((slots first List.mem_cons_self).trans (slots claim (List.mem_cons_of_mem _ hc)).symm)
    have own : owner ∈ first :: rest := hl ▸ mem_line.mpr ⟨ho, rfl⟩
    rcases List.mem_cons.mp own with rfl | own
    · exact ⟨rest, rfl, waits⟩
    · exact absurd (waits owner own) has

theorem WellFormed.nodup_waiters (h : table.WellFormed) (key : LockKey) :
    (table.waiters key).Nodup :=
  h.names.sublist ((List.filter_sublist.trans List.filter_sublist).map _)

variable [DecidableEq ν]

/-- In a reachable table, the oldest claim to each slot has it. -/
theorem queued_run (events : List (Event ν)) : (run events).Queued := by
  induction events using List.reverseRecOn with
  | nil => constructor <;> simp [run, empty]
  | append_singleton events event ih =>
    rw [run_snoc]
    exact ih.step (wellFormed_run events) event

/-- A name waits for a key if it claims it and does not hold it. -/
theorem WellFormed.mem_waiters (h : table.WellFormed) :
    name ∈ table.waiters key ↔ table.grip name = some (key, false) := by
  rw [grip_eq_some h]
  simp [waiters, line, and_assoc, and_comm]

theorem WellFormed.isChosen_grip (h : table.WellFormed) (chosen : table.IsChosen name key) :
    table.grip name = some (key, false) := by
  obtain ⟨claim, hc, rfl, rfl, hs⟩ := chosen
  exact (grip_eq_some h).mpr ⟨claim, hc, rfl, rfl, by simp [hs]⟩

/-- A key that was handed over is held by nobody, and was handed to the first of those who wait. -/
theorem Queued.of_isChosen (h : table.Queued) (hw : table.WellFormed)
    (chosen : table.IsChosen name key) :
    (∀ holder, table.grip holder ≠ some (key, true)) ∧
      ∃ rest, table.waiters key = name :: rest := by
  obtain ⟨claim, hc, rfl, rfl, hs⟩ := chosen
  obtain ⟨rest, hl, waits⟩ := h.line_of_owner hw hc (by simp [hs])
  refine ⟨fun holder holds => ?_, ?_⟩
  · obtain ⟨other, ho, -, same, held⟩ := (grip_eq_some hw).mp holds
    have held : other.standing = .held := by simpa using held
    rcases List.mem_cons.mp (hl ▸ mem_line.mpr ⟨ho, same⟩) with rfl | ho
    · simp [hs] at held
    · simp [waits other ho] at held
  · simp [waiters, hl, hs]

/-- Where nobody holds a key, it was handed to the first of those who wait. -/
theorem Queued.isChosen_head (h : table.Queued) (hw : table.WellFormed)
    (free : ∀ holder, table.grip holder ≠ some (key, true)) :
    ∀ first ∈ (table.waiters key).head?, table.IsChosen first key := by
  intro first hf
  obtain ⟨claim, hc, -, rfl, -⟩ :=
    (grip_eq_some hw).mp (hw.mem_waiters.mp (List.mem_of_mem_head? hf))
  obtain ⟨owner, ho, keys, has⟩ := h.exists_owner hw hc
  have chosen : owner.standing = .chosen := by
    cases hs : owner.standing with
    | waiting => exact absurd hs has
    | chosen => rfl
    | held => exact absurd ((grip_eq_some hw).mpr ⟨owner, ho, rfl, keys, by simp [hs]⟩) (free _)
  have given : table.IsChosen owner.name claim.key := ⟨owner, ho, rfl, keys, chosen⟩
  obtain ⟨-, rest, hl⟩ := h.of_isChosen hw given
  rw [hl, List.head?_cons, Option.mem_some_iff] at hf
  exact hf ▸ given

/-! ### Waiters and events -/

omit [DecidableEq ν] in
/-- A chosen claim still waits. -/
theorem waiters_handOver (table : Table ν) (slot : Nat) (key : LockKey) :
    (table.handOver slot).waiters key = table.waiters key := by
  rw [waiters, waiters, line, line, Table.handOver]
  dsimp only
  induction table.claims with
  | nil => rfl
  | cons first rest ih =>
    rw [choose]
    split
    case isTrue hw =>
      by_cases own : first.key = key
      · simp [own, hw.2]
      · simp [own]
    case isFalse =>
      by_cases own : first.key = key
      · by_cases held : first.standing = .held
        · simpa [own, held] using ih
        · simpa [own, held] using ih
      · simpa [own] using ih

theorem waiters_drop (table : Table ν) (name : ν) (key : LockKey) :
    (table.drop name).waiters key = (table.waiters key).filter (· != name) := by
  simp only [waiters, line, drop, List.filter_map, List.filter_filter]
  congr 2
  funext claim
  simp only [Function.comp_apply]
  ac_rfl

/-- Who does not wait for a key is not missed by those who do. -/
theorem WellFormed.filter_waiters (h : table.WellFormed)
    (free : table.grip name ≠ some (key, false)) :
    (table.waiters key).filter (· != name) = table.waiters key := by
  refine List.filter_eq_self.mpr fun other ho => bne_iff_ne.mpr ?_
  rintro rfl
  exact free (h.mem_waiters.mp ho)

/-- The first of those who wait is not among the others. -/
theorem WellFormed.filter_waiters_of_cons (h : table.WellFormed) {rest : List ν}
    (first : table.waiters key = name :: rest) :
    (table.waiters key).filter (· != name) = rest := by
  have nodup := h.nodup_waiters key
  rw [first, List.nodup_cons] at nodup
  rw [first, List.filter_cons_of_neg (by simp), List.filter_eq_self.mpr]
  exact fun other ho => bne_iff_ne.mpr fun same => nodup.1 (same ▸ ho)

theorem WellFormed.waiters_release (h : table.WellFormed) (name : ν) (key : LockKey) :
    (table.release name).waiters key = table.waiters key := by
  rw [Table.release]
  split
  case h_2 => rfl
  case h_1 claim hf =>
    split
    case isFalse => rfl
    case isTrue held =>
      have left : ((table.drop name).handOver claim.slot).waiters key = table.waiters key := by
        rw [waiters_handOver, waiters_drop, h.filter_waiters]
        simp [grip, hf, held]
      dsimp only
      split <;> exact left

theorem WellFormed.waiters_cancel (h : table.WellFormed) (name : ν) (key : LockKey) :
    (table.cancel name).waiters key = (table.waiters key).filter (· != name) := by
  rw [Table.cancel]
  split
  case h_2 none => rw [h.filter_waiters (by simp [grip, none])]
  case h_1 claim hf =>
    split
    case h_1 held => rw [h.filter_waiters (by simp [grip, hf, held])]
    case h_2 => rw [waiters_handOver, waiters_drop]
    case h_3 => exact waiters_drop table name key

/-- A name that was handed its key waits for none after a poll. -/
theorem WellFormed.waiters_poll (h : table.WellFormed) {other : LockKey}
    (chosen : table.IsChosen name other) :
    (table.poll name).waiters key = (table.waiters key).filter (· != name) := by
  obtain ⟨own, ho, rfl, -, hs⟩ := chosen
  simp only [waiters, line, Table.poll, List.filter_map, List.filter_filter, List.map_map]
  have same : ∀ claim ∈ table.claims, claim.name = own.name → claim.standing = .chosen :=
    fun claim hc named => h.eq_of_name hc ho named ▸ hs
  have names : (Claim.name ∘ fun claim : Claim ν =>
      if claim.name = own.name ∧ claim.standing = .chosen then { claim with standing := .held }
      else claim) = Claim.name := by
    funext claim
    rw [Function.comp_apply]
    split <;> rfl
  rw [names]
  congr 1
  refine List.filter_congr fun claim hc => ?_
  by_cases named : claim.name = own.name
  · simp [named, same claim hc named]
  · simp [named]

/-- What was handed to a name is held after its next poll. -/
theorem WellFormed.grip_poll (h : table.WellFormed) (chosen : table.IsChosen name key) :
    (table.poll name).grip name = some (key, true) := by
  obtain ⟨claim, hc, rfl, rfl, hs⟩ := chosen
  exact grip_poll_chosen (h.claim?_of_mem hc) hs

/-- A poll of a name that was handed nothing changes nothing. -/
theorem poll_of_not_isChosen (free : ∀ key, ¬table.IsChosen name key) :
    table.poll name = table := by
  have same : (table.claims.map fun claim =>
      if claim.name = name ∧ claim.standing = .chosen then { claim with standing := .held }
      else claim) = table.claims := by
    refine (List.map_congr_left fun claim hc => if_neg ?_).trans (List.map_id _)
    rintro ⟨named, hs⟩
    exact free claim.key ⟨claim, hc, named, rfl, hs⟩
  rw [Table.poll, same]

/-- A name that has a claim starts no other. -/
theorem start_of_grip (old : table.grip name ≠ none) : table.start name key = table := by
  rw [Table.start, if_pos]
  exact Option.isSome_iff_ne_none.mpr fun none => old (by simp [grip, none])

/-- A name that is new to a table goes to the end of it, and was not handed its key by another. -/
theorem claims_start (new : table.grip name = none) (key : LockKey) :
    ∃ claim : Claim ν, claim.name = name ∧ claim.key = key ∧ claim.standing ≠ .chosen ∧
      (table.start name key).claims = table.claims ++ [claim] := by
  have fresh : table.claims.find? (·.name == name) = none := Option.map_eq_none_iff.mp new
  rw [Table.start, if_neg (by simp [claim?, fresh])]
  have same : (table.sweep.slotOf key).1.claims = table.claims := claims_slotOf _ key
  refine ⟨⟨name, key, (table.sweep.slotOf key).2, _⟩, rfl, rfl, ?_, congrArg (· ++ _) same⟩
  dsimp only
  split <;> simp

/-- A name that starts to claim a key holds it if nobody else claims it, and else waits behind all
others. -/
theorem Queued.waiters_start (h : table.Queued) (hw : table.WellFormed)
    (new : table.grip name = none) (key : LockKey) :
    ((table.start name key).grip name = some (key, true) ∧ table.line key = [] ∧
        (table.start name key).waiters key = []) ∨
      ((table.start name key).grip name = some (key, false) ∧ table.line key ≠ [] ∧
        (table.start name key).waiters key = table.waiters key ++ [name]) := by
  obtain ⟨claim, rfl, rfl, apart, ha⟩ := claims_start new key
  have line : (table.start claim.name claim.key).line claim.key =
      table.line claim.key ++ [claim] := by
    simp [Table.line, ha]
  have hw' := hw.start claim.name claim.key
  have h' := h.start claim.name claim.key
  have hc : claim ∈ (table.start claim.name claim.key).claims := by simp [ha]
  by_cases has : claim.standing = .waiting
  · refine Or.inr ⟨(grip_eq_some hw').mpr ⟨claim, hc, rfl, rfl, by simp [has]⟩, ?_, ?_⟩
    · -- an owner is there already, as the new claim is none
      intro none
      obtain ⟨owner, ho, keys, owns⟩ := h'.exists_owner hw' hc
      have own := mem_line.mpr ⟨ho, keys⟩
      rw [line, none, List.nil_append, List.mem_singleton] at own
      exact owns (own ▸ has)
    · simp [waiters, line, has]
  · have held : claim.standing = .held := by
      cases hs : claim.standing with
      | waiting => exact absurd hs has
      | chosen => exact absurd hs apart
      | held => rfl
    obtain ⟨rest, hl, waits⟩ := h'.line_of_owner hw' hc has
    have none : table.line claim.key = [] := by
      cases before : table.line claim.key with
      | nil => rfl
      | cons first others =>
        -- the new claim would stand behind another, and so wait
        rw [line, before] at hl
        obtain ⟨-, rfl⟩ := List.cons.inj hl
        exact absurd (waits claim (by simp)) has
    refine Or.inl ⟨(grip_eq_some hw').mpr ⟨claim, hc, rfl, rfl, by simp [held]⟩, none, ?_⟩
    simp [waiters, line, none, held]

theorem waiters_start_of_ne (table : Table ν) (name : ν) {other : LockKey} (ne : other ≠ key) :
    (table.start name key).waiters other = table.waiters other := by
  by_cases new : table.grip name = none
  · obtain ⟨claim, rfl, rfl, -, ha⟩ := claims_start new key
    simp [waiters, line, ha, ne.symm]
  · rw [start_of_grip new]

theorem release_of_waits (waits : table.grip name = some (key, false)) :
    table.release name = table := by
  obtain ⟨claim, hf, heq⟩ := Option.map_eq_some_iff.mp waits
  have waits : claim.standing ≠ .held := by simpa using (Prod.mk.inj heq).2
  simp [Table.release, hf, waits]

theorem cancel_of_holds (holds : table.grip name = some (key, true)) :
    table.cancel name = table := by
  obtain ⟨claim, hf, heq⟩ := Option.map_eq_some_iff.mp holds
  have held : claim.standing = .held := by simpa using (Prod.mk.inj heq).2
  simp [Table.cancel, hf, held]

/-- A name that does not hold a key has nothing of the table after it is cancelled. -/
theorem grip_cancel (free : ∀ key, table.grip name ≠ some (key, true)) :
    (table.cancel name).grip name = none := by
  cases hf : table.claim? name with
  | none => simp [Table.cancel, hf, grip]
  | some claim =>
    have apart : claim.standing ≠ .held := fun held => free claim.key (by simp [grip, hf, held])
    simp only [Table.cancel, hf]
    split
    case h_1 hs => exact absurd hs apart
    case h_2 => rw [grip_handOver, grip_drop]
    case h_3 => exact grip_drop table name

/-! ### How the line moves -/

/-- What a name has of one key: no claim to it, or one that is held or not. -/
def share (table : Table ν) (key : LockKey) (name : ν) : Option Bool :=
  (table.grip name).bind fun (claimed, held) => if claimed = key then some held else none

/-- What an event of a name makes of those who wait for a key. -/
inductive Shift (table after : Table ν) (key : LockKey) (name : ν) : Prop where
  /-- A new claim waits behind all others. -/
  | joins (before : table.share key name = none) (now : after.share key name = some false)
      (waiters : after.waiters key = table.waiters key ++ [name])
  /-- A new claim holds the key at once, as nobody waits. -/
  | takes (before : table.share key name = none) (now : after.share key name = some true)
      (none : table.waiters key = []) (still : after.waiters key = [])
  /-- The first of those who wait holds the key now. -/
  | notices (before : table.share key name = some false) (now : after.share key name = some true)
      (first : table.waiters key = name :: after.waiters key)
  /-- One of those who wait is gone. -/
  | leaves (before : table.share key name = some false) (now : after.share key name = none)
      (waiters : after.waiters key = (table.waiters key).filter (· != name))
  /-- All who wait stay, and the name got nothing; it may have given the key back. -/
  | stays (now : after.share key name = table.share key name ∨
        table.share key name = some true ∧ after.share key name = none)
      (waiters : after.waiters key = table.waiters key)

theorem share_eq_some {held : Bool} :
    table.share key name = some held ↔ table.grip name = some (key, held) := by
  cases hg : table.grip name with
  | none => simp [share, hg]
  | some has =>
    obtain ⟨claimed, own⟩ := has
    by_cases same : claimed = key <;> simp [share, hg, same]

theorem share_eq_none :
    table.share key name = none ↔ ∀ held, table.grip name ≠ some (key, held) := by
  simp [Option.eq_none_iff_forall_ne_some, share_eq_some]

theorem share_of_grip_none (h : table.grip name = none) : table.share key name = none := by
  rw [share, h, Option.bind_none]

theorem Queued.shift_start (h : table.Queued) (hw : table.WellFormed) (name : ν)
    (claimed key : LockKey) : Shift table (table.start name claimed) key name := by
  by_cases new : table.grip name = none
  · by_cases same : key = claimed
    · subst same
      have before : table.share key name = none := share_of_grip_none new
      rcases h.waiters_start hw new key with ⟨now, none, still⟩ | ⟨now, -, behind⟩
      · exact .takes before (share_eq_some.mpr now) (by simp [waiters, none]) still
      · exact .joins before (share_eq_some.mpr now) behind
    · obtain ⟨held, now⟩ := grip_start claimed new
      refine .stays (Or.inl ?_) (waiters_start_of_ne table name same)
      simp [share, now, new, Ne.symm same]
  · rw [start_of_grip new]
    exact .stays (Or.inl rfl) rfl

theorem Queued.shift_poll (h : table.Queued) (hw : table.WellFormed) (name : ν) (key : LockKey) :
    Shift table (table.poll name) key name := by
  by_cases chosen : ∃ other, table.IsChosen name other
  · obtain ⟨other, chosen⟩ := chosen
    have before := hw.isChosen_grip chosen
    have now := hw.grip_poll chosen
    have waiters : (table.poll name).waiters key = (table.waiters key).filter (· != name) :=
      hw.waiters_poll chosen
    by_cases same : other = key
    · subst same
      obtain ⟨-, rest, first⟩ := h.of_isChosen hw chosen
      refine .notices (share_eq_some.mpr before) (share_eq_some.mpr now) ?_
      rw [waiters, hw.filter_waiters_of_cons first, first]
    · rw [hw.filter_waiters (by simp [before, same])] at waiters
      refine .stays (Or.inl ?_) waiters
      simp [share, before, now, same]
  · rw [poll_of_not_isChosen (not_exists.mp chosen)]
    exact .stays (Or.inl rfl) rfl

theorem WellFormed.shift_release (h : table.WellFormed) (name : ν) (key : LockKey) :
    Shift table (table.release name) key name := by
  refine .stays ?_ (h.waiters_release name key)
  by_cases waits : ∃ other, table.grip name = some (other, false)
  · obtain ⟨other, waits⟩ := waits
    rw [release_of_waits waits]
    exact Or.inl rfl
  · have gone : (table.release name).share key name = none :=
      share_of_grip_none (grip_release (not_exists.mp waits))
    cases hs : table.share key name with
    | none => exact Or.inl gone
    | some held =>
      cases held with
      | false => exact absurd ⟨key, share_eq_some.mp hs⟩ waits
      | true => exact Or.inr ⟨rfl, gone⟩

theorem WellFormed.shift_cancel (h : table.WellFormed) (name : ν) (key : LockKey) :
    Shift table (table.cancel name) key name := by
  have waiters := h.waiters_cancel name key
  by_cases holds : ∃ other, table.grip name = some (other, true)
  · obtain ⟨other, holds⟩ := holds
    rw [cancel_of_holds holds]
    exact .stays (Or.inl rfl) rfl
  · have gone : (table.cancel name).share key name = none :=
      share_of_grip_none (grip_cancel (not_exists.mp holds))
    cases hs : table.share key name with
    | none =>
      rw [h.filter_waiters (share_eq_none.mp hs false)] at waiters
      exact .stays (Or.inl (gone.trans hs.symm)) waiters
    | some held =>
      cases held with
      | false => exact .leaves hs gone waiters
      | true => exact absurd ⟨key, share_eq_some.mp hs⟩ holds

/-- An event moves the line of a key in one of five ways. -/
theorem Queued.shift (h : table.Queued) (hw : table.WellFormed) (event : Event ν) (key : LockKey) :
    Shift table (table.step event) key event.name := by
  cases event with
  | start name claimed => exact h.shift_start hw name claimed key
  | poll name => exact h.shift_poll hw name key
  | release name => exact hw.shift_release name key
  | cancel name => exact hw.shift_cancel name key

end Table
end BlockVolume.Lock
