import BlockVolume.Proofs.Lock.Exclusion
import Mathlib.Data.List.Nodup
/-!
Whose turn it is to have a key.

`grip` is what a name has of a table: the key that it claims, and whether it holds it. An event
changes the grip of its own name alone. In a table that is `Queued`, the oldest claim to a slot has it
and all others wait; every event preserves that. So where a key is claimed and not held, the oldest
claim to it was handed it, and holds it after its next poll.
-/

namespace BlockVolume.Lock.Table

variable {ν : Type}

/-- Of the claims to a slot, the oldest has it and all others wait. -/
structure Queued (table : Table ν) : Prop where
  behind : table.claims.Pairwise fun a b => a.slot = b.slot → b.standing = .waiting
  served : ∀ claim ∈ table.claims, ∃ owner ∈ table.claims,
    owner.slot = claim.slot ∧ owner.standing ≠ .waiting

variable {table : Table ν} {key : LockKey} {slot : Nat}

/-! ### Handing over -/

/-- The first of the waiting claims is the one that is chosen. -/
theorem behind_choose {claims : List (Claim ν)}
    (free : ∀ claim ∈ claims, claim.slot = slot → claim.standing = .waiting)
    (behind : claims.Pairwise fun a b => a.slot = b.slot → b.standing = .waiting) :
    (choose slot claims).Pairwise fun a b => a.slot = b.slot → b.standing = .waiting := by
  induction claims with
  | nil => exact behind
  | cons first rest ih =>
    obtain ⟨hfirst, hrest⟩ := List.pairwise_cons.mp behind
    have later : ∀ claim ∈ rest, claim.slot = slot → claim.standing = .waiting :=
      fun claim hc => free claim (List.mem_cons_of_mem _ hc)
    rw [choose]
    split
    case isTrue => exact List.pairwise_cons.mpr ⟨hfirst, hrest⟩
    case isFalse other =>
      refine List.pairwise_cons.mpr ⟨fun claim hc heq => ?_, ih later hrest⟩
      rcases mem_choose hc with hc | ⟨old, -, hs, rfl⟩
      · exact hfirst claim hc heq
      · -- the first claim would have been chosen in its place
        have own : first.slot = slot := heq.trans hs
        exact absurd ⟨own, free first List.mem_cons_self own⟩ other

/-- One of the claims to the slot is chosen, if there are any. -/
theorem exists_chosen {claims : List (Claim ν)}
    (free : ∀ claim ∈ claims, claim.slot = slot → claim.standing = .waiting)
    (some : ∃ claim ∈ claims, claim.slot = slot) :
    ∃ owner ∈ choose slot claims, owner.slot = slot ∧ owner.standing ≠ .waiting := by
  induction claims with
  | nil =>
    obtain ⟨claim, hc, -⟩ := some
    cases hc
  | cons first rest ih =>
    rw [choose]
    split
    case isTrue hw => exact ⟨_, List.mem_cons_self, hw.1, by simp⟩
    case isFalse other =>
      have away : first.slot ≠ slot :=
        fun own => other ⟨own, free first List.mem_cons_self own⟩
      have still : ∃ claim ∈ rest, claim.slot = slot := by
        obtain ⟨claim, hc, own⟩ := some
        rcases List.mem_cons.mp hc with rfl | hc
        · exact absurd own away
        · exact ⟨claim, hc, own⟩
      obtain ⟨owner, ho, hs⟩ := ih (fun claim hc => free claim (List.mem_cons_of_mem _ hc)) still
      exact ⟨owner, List.mem_cons_of_mem _ ho, hs⟩

/-- A claim that has a slot, or is to another, is not touched. -/
theorem mem_choose_of_not {claims : List (Claim ν)} {claim : Claim ν} (h : claim ∈ claims)
    (other : ¬(claim.slot = slot ∧ claim.standing = .waiting)) : claim ∈ choose slot claims := by
  induction claims with
  | nil => cases h
  | cons first rest ih =>
    rw [choose]
    split
    case isTrue hw =>
      rcases List.mem_cons.mp h with rfl | h
      · exact absurd hw other
      · exact List.mem_cons_of_mem _ h
    case isFalse =>
      rcases List.mem_cons.mp h with rfl | h
      · exact List.mem_cons_self
      · exact List.mem_cons_of_mem _ (ih h)

/-! ### One event -/

/-- A free slot is handed to its oldest claim. -/
theorem Queued.handOver
    (behind : table.claims.Pairwise fun a b => a.slot = b.slot → b.standing = .waiting)
    (served : ∀ claim ∈ table.claims, claim.slot ≠ slot → ∃ owner ∈ table.claims,
      owner.slot = claim.slot ∧ owner.standing ≠ .waiting)
    (free : ∀ claim ∈ table.claims, claim.slot = slot → claim.standing = .waiting) :
    (table.handOver slot).Queued where
  behind := behind_choose free behind
  served claim hc := by
    obtain ⟨old, ho, hs⟩ : ∃ old ∈ table.claims, old.slot = claim.slot := by
      rcases mem_choose hc with hc | ⟨old, ho, -, rfl⟩
      · exact ⟨claim, hc, rfl⟩
      · exact ⟨old, ho, rfl⟩
    rw [← hs]
    by_cases own : old.slot = slot
    · rw [own]
      exact exists_chosen free ⟨old, ho, own⟩
    · obtain ⟨owner, hw, hsl, has⟩ := served old ho own
      exact ⟨owner, mem_choose_of_not hw fun waits => has waits.2, hsl, has⟩

/-- A claim is known by its name. -/
theorem WellFormed.eq_of_name (h : table.WellFormed) {a b : Claim ν} (ha : a ∈ table.claims)
    (hb : b ∈ table.claims) (same : a.name = b.name) : a = b :=
  List.inj_on_of_nodup_map h.names ha hb same

theorem claims_slotOf (table : Table ν) (key : LockKey) :
    (table.slotOf key).1.claims = table.claims := by
  rw [slotOf]
  split <;> rfl

/-- The claims of a table as names and keys, the oldest first. -/
def turns (table : Table ν) : List (ν × LockKey) := table.claims.map fun claim => (claim.name, claim.key)

theorem turns_handOver (table : Table ν) (slot : Nat) : (table.handOver slot).turns = table.turns := by
  rw [turns, turns, Table.handOver]
  dsimp only
  induction table.claims with
  | nil => rfl
  | cons first rest ih =>
    rw [choose]
    split
    · rfl
    · rw [List.map_cons, List.map_cons, ih]

variable [DecidableEq ν]

theorem Queued.start (h : table.Queued) (name : ν) (key : LockKey) : (table.start name key).Queued := by
  rw [Table.start]
  split
  case isTrue => exact h
  case isFalse =>
    have same : (table.sweep.slotOf key).1.claims = table.claims := claims_slotOf _ key
    rcases hs : table.sweep.slotOf key with ⟨entered, slot⟩
    rw [hs] at same
    dsimp only at same ⊢
    constructor
    · refine List.pairwise_append.mpr ⟨same ▸ h.behind, List.pairwise_singleton _ _, ?_⟩
      intro a ha b hb heq
      obtain rfl := List.mem_singleton.mp hb
      obtain ⟨owner, ho, hsl, has⟩ := h.served a (same ▸ ha)
      have taken : entered.isTaken slot = true := by
        rw [isTaken, same]
        exact List.any_eq_true.mpr ⟨owner, ho, by simp [hsl.trans heq, has]⟩
      exact if_pos taken
    · intro claim hc
      rcases List.mem_append.mp hc with hc | hc
      · obtain ⟨owner, ho, hso⟩ := h.served claim (same ▸ hc)
        exact ⟨owner, List.mem_append_left _ (same ▸ ho), hso⟩
      · obtain rfl := List.mem_singleton.mp hc
        cases taken : entered.isTaken slot with
        | true =>
          obtain ⟨owner, ho, hso⟩ := List.any_eq_true.mp taken
          exact ⟨owner, List.mem_append_left _ ho, by simpa using hso⟩
        | false => exact ⟨_, List.mem_append_right _ List.mem_cons_self, rfl, by simp⟩

theorem Queued.poll (h : table.Queued) (name : ν) : (table.poll name).Queued where
  behind := by
    refine List.pairwise_map.mpr (h.behind.imp fun {a b} behind => ?_)
    -- a claim that notices did not wait before
    split <;> split <;> simp_all
  served claim hc := by
    obtain ⟨old, ho, rfl⟩ := List.mem_map.mp hc
    obtain ⟨owner, hw, hs, has⟩ := h.served old ho
    refine ⟨_, List.mem_map_of_mem hw, ?_, ?_⟩
    · split <;> split <;> exact hs
    · split
      · simp
      · exact has

/-- A claim that has its slot leaves, and the slot goes to the next one. -/
theorem Queued.leave (h : table.Queued) (hw : table.WellFormed) {claim : Claim ν}
    (hc : claim ∈ table.claims) (owner : claim.standing ≠ .waiting) :
    ((table.drop claim.name).handOver claim.slot).Queued := by
  refine Queued.handOver (h.behind.sublist List.filter_sublist) ?_ (hw.free_of_drop hc owner)
  intro other ho ne
  obtain ⟨has, hs⟩ := h.served other (List.mem_filter.mp ho).1
  refine ⟨has, List.mem_filter.mpr ⟨hs.1, ?_⟩, hs.2⟩
  -- the owner of another slot has another name
  refine bne_iff_ne.mpr fun same => ne ?_
  rw [← hs.2.1, hw.eq_of_name hs.1 hc same]

theorem Queued.release (h : table.Queued) (hw : table.WellFormed) (name : ν) :
    (table.release name).Queued := by
  rw [Table.release]
  split
  case h_2 => exact h
  case h_1 claim hf =>
    have hc : claim ∈ table.claims := List.mem_of_find?_eq_some hf
    have hn : claim.name = name := by simpa using List.find?_some hf
    split
    case isFalse => exact h
    case isTrue held =>
      have given := h.leave hw hc (by simp [held])
      rw [hn] at given
      dsimp only
      split
      · exact ⟨given.behind, given.served⟩
      · exact given

theorem Queued.cancel (h : table.Queued) (hw : table.WellFormed) (name : ν) :
    (table.cancel name).Queued := by
  rw [Table.cancel]
  split
  case h_2 => exact h
  case h_1 claim hf =>
    have hc : claim ∈ table.claims := List.mem_of_find?_eq_some hf
    have hn : claim.name = name := by simpa using List.find?_some hf
    split
    case h_1 => exact h
    case h_2 chosen =>
      have given := h.leave hw hc (by simp [chosen])
      rwa [hn] at given
    case h_3 waits =>
      refine ⟨h.behind.sublist List.filter_sublist, fun other ho => ?_⟩
      obtain ⟨owner, hm, hs, has⟩ := h.served other (List.mem_filter.mp ho).1
      refine ⟨owner, List.mem_filter.mpr ⟨hm, bne_iff_ne.mpr fun same => has ?_⟩, hs, has⟩
      rw [hw.eq_of_name hm hc (same.trans hn.symm), waits]

/-- One event keeps the oldest claim to each slot in front. -/
theorem Queued.step (h : table.Queued) (hw : table.WellFormed) (event : Event ν) :
    (table.step event).Queued := by
  cases event with
  | start name key => exact h.start name key
  | poll name => exact h.poll name
  | release name => exact h.release hw name
  | cancel name => exact h.cancel hw name

/-! ### Grips -/

/-- What a name has of a table: the key that it claims, and whether it holds it. -/
def grip (table : Table ν) (name : ν) : Option (LockKey × Bool) :=
  (table.claim? name).map fun claim => (claim.key, claim.standing == .held)

variable {name other : ν} {held : Bool}

theorem WellFormed.claim?_of_mem (h : table.WellFormed) {claim : Claim ν}
    (hc : claim ∈ table.claims) : table.claim? claim.name = some claim := by
  cases hf : table.claim? claim.name with
  | none => exact absurd (List.find?_eq_none.mp hf claim hc) (by simp)
  | some found =>
    have same : found.name = claim.name := by simpa using List.find?_some hf
    rw [h.eq_of_name (List.mem_of_find?_eq_some hf) hc same]

theorem grip_eq_some (h : table.WellFormed) :
    table.grip name = some (key, held) ↔
      ∃ claim ∈ table.claims, claim.name = name ∧ claim.key = key ∧
        (claim.standing == .held) = held := by
  rw [grip, Option.map_eq_some_iff]
  constructor
  · rintro ⟨claim, hf, heq⟩
    obtain ⟨rfl, rfl⟩ := Prod.mk.inj heq
    exact ⟨claim, List.mem_of_find?_eq_some hf, by simpa using List.find?_some hf, rfl, rfl⟩
  · rintro ⟨claim, hc, rfl, rfl, rfl⟩
    exact ⟨claim, h.claim?_of_mem hc, rfl⟩

/-- Two names that hold a key are one. -/
theorem WellFormed.grip_inj (h : table.WellFormed) (hn : table.grip name = some (key, true))
    (ho : table.grip other = some (key, true)) : name = other := by
  obtain ⟨a, ha, rfl, rfl, heldA⟩ := (grip_eq_some h).mp hn
  obtain ⟨b, hb, rfl, same, heldB⟩ := (grip_eq_some h).mp ho
  by_contra ne
  have slots : some b.slot = some a.slot := by
    rw [← lookup_of_mem h.keys (h.entered a ha), ← lookup_of_mem h.keys (h.entered b hb), same]
  have apart := h.apart.forall ha hb (fun heq => ne (congrArg Claim.name heq))
    (Option.some.inj slots).symm
  simp_all

/-! ### Events and grips -/

/-- A chosen claim still waits, so handing over changes no grip. -/
theorem grip_handOver (table : Table ν) (slot : Nat) (name : ν) :
    (table.handOver slot).grip name = table.grip name := by
  rw [grip, grip, claim?, claim?, Table.handOver]
  dsimp only
  induction table.claims with
  | nil => rfl
  | cons first rest ih =>
    rw [choose]
    split
    case isTrue hw =>
      by_cases own : first.name = name
      · simp [own, hw.2]
      · simp [own]
    case isFalse =>
      by_cases own : first.name = name
      · simp [own]
      · simpa [own] using ih

theorem grip_drop_of_ne (ne : other ≠ name) : (table.drop name).grip other = table.grip other := by
  rw [grip, grip, claim?, claim?, drop, List.find?_filter]
  congr 2
  funext claim
  by_cases own : claim.name = other <;> simp [own, ne]

theorem grip_drop (table : Table ν) (name : ν) : (table.drop name).grip name = none := by
  simp [grip, claim?, drop]

theorem grip_start_of_ne (ne : other ≠ name) :
    (table.start name key).grip other = table.grip other := by
  rw [Table.start]
  split
  case isTrue => rfl
  case isFalse =>
    have same : (table.sweep.slotOf key).1.claims = table.claims := claims_slotOf _ key
    simp [grip, claim?, same, List.find?_append, ne.symm]

/-- A name that is new to a table has a grip of the key that it starts to claim. -/
theorem grip_start (key : LockKey) (new : table.grip name = none) :
    ∃ held, (table.start name key).grip name = some (key, held) := by
  have fresh : table.claims.find? (·.name == name) = none := Option.map_eq_none_iff.mp new
  rw [Table.start, if_neg (by simp [claim?, fresh])]
  have same : (table.sweep.slotOf key).1.claims = table.claims := claims_slotOf _ key
  rcases hs : table.sweep.slotOf key with ⟨entered, slot⟩
  rw [hs] at same
  dsimp only at same
  let standing := if entered.isTaken slot then Standing.waiting else .held
  exact ⟨standing == .held, by simp [grip, claim?, same, List.find?_append, fresh, standing]⟩

theorem claim?_poll (table : Table ν) (name other : ν) :
    (table.poll name).claim? other = (table.claim? other).map fun claim =>
      if claim.name = name ∧ claim.standing = .chosen then { claim with standing := .held }
      else claim := by
  rw [claim?, claim?, Table.poll, List.find?_map]
  congr 2
  funext claim
  rw [Function.comp_apply]
  split <;> rfl

theorem key_grip_poll (table : Table ν) (name other : ν) :
    ((table.poll name).grip other).map Prod.fst = (table.grip other).map Prod.fst := by
  rw [grip, grip, claim?_poll, Option.map_map, Option.map_map, Option.map_map]
  congr 1
  funext claim
  simp only [Function.comp_apply]
  split <;> rfl

/-- A poll keeps the key, and what was held is held. -/
theorem grip_of_poll (h : (table.poll name).grip other = some (key, held)) :
    ∃ before, table.grip other = some (key, before) ∧ (before = true → held = true) := by
  rw [grip, claim?_poll, Option.map_map] at h
  obtain ⟨claim, hf, heq⟩ := Option.map_eq_some_iff.mp h
  rw [Function.comp_apply] at heq
  refine ⟨claim.standing == .held, ?_, ?_⟩
  · split at heq <;> rw [grip, hf] <;> exact congrArg (fun key => some (key, _)) (Prod.mk.inj heq).1
  · split at heq <;> obtain ⟨-, rfl⟩ := Prod.mk.inj heq
    · exact fun _ => rfl
    · exact id

/-- A claim that was chosen is held after a poll. -/
theorem grip_poll_chosen {claim : Claim ν} (h : table.claim? name = some claim)
    (chosen : claim.standing = .chosen) :
    (table.poll name).grip name = some (claim.key, true) := by
  have own : claim.name = name := by simpa using List.find?_some h
  simp [grip, claim?_poll, h, own, chosen]

theorem grip_release_of_ne (ne : other ≠ name) :
    (table.release name).grip other = table.grip other := by
  rw [Table.release]
  split
  case h_2 => rfl
  case h_1 claim _ =>
    split
    case isFalse => rfl
    case isTrue =>
      have left : ((table.drop name).handOver claim.slot).grip other = table.grip other := by
        rw [grip_handOver, grip_drop_of_ne ne]
      dsimp only
      split <;> exact left

/-- A name that does not wait has nothing of the table after its release. -/
theorem grip_release (free : ∀ key, table.grip name ≠ some (key, false)) :
    (table.release name).grip name = none := by
  rw [Table.release]
  split
  case h_2 none => rw [grip, none, Option.map_none]
  case h_1 claim hf =>
    have held : claim.standing = .held := by
      by_contra not
      exact free claim.key (by simp [grip, hf, not])
    have left : ((table.drop name).handOver claim.slot).grip name = none := by
      rw [grip_handOver, grip_drop]
    rw [if_pos held]
    dsimp only
    split <;> exact left

theorem grip_cancel_of_ne (ne : other ≠ name) :
    (table.cancel name).grip other = table.grip other := by
  rw [Table.cancel]
  split
  case h_2 => rfl
  case h_1 claim _ =>
    split
    case h_1 => rfl
    case h_2 => rw [grip_handOver, grip_drop_of_ne ne]
    case h_3 => exact grip_drop_of_ne ne

/-- Releasing what is held, and cancelling what is not, leaves a name with nothing. -/
theorem grip_giveUp (table : Table ν) (name : ν) :
    ((table.release name).cancel name).grip name = none := by
  cases hf : table.claim? name with
  | none =>
    have gone : table.release name = table := by simp [Table.release, hf]
    rw [gone, Table.cancel, hf, grip, hf]
    rfl
  | some claim =>
    by_cases held : claim.standing = .held
    · have gone : (table.release name).grip name = none := grip_release (by simp [grip, hf, held])
      have none : (table.release name).claim? name = none := Option.map_eq_none_iff.mp gone
      rw [Table.cancel, none]
      exact gone
    · have stays : table.release name = table := by simp [Table.release, hf, held]
      simp only [stays, Table.cancel, hf]
      split
      case h_1 hs => exact absurd hs held
      case h_2 => rw [grip_handOver, grip_drop]
      case h_3 => exact grip_drop table name

/-! ### The next one -/

theorem turns_drop (table : Table ν) (name : ν) : (table.drop name).turns.Sublist table.turns :=
  List.filter_sublist.map _

theorem turns_start (new : table.grip name = none) :
    (table.start name key).turns = table.turns ++ [(name, key)] := by
  have fresh : table.claims.find? (·.name == name) = none := Option.map_eq_none_iff.mp new
  rw [Table.start, if_neg (by simp [claim?, fresh])]
  have same : (table.sweep.slotOf key).1.claims = table.claims := claims_slotOf _ key
  simp [turns, same]

theorem turns_poll (table : Table ν) (name : ν) : (table.poll name).turns = table.turns := by
  rw [turns, turns, Table.poll, List.map_map]
  refine List.map_congr_left fun claim _ => ?_
  rw [Function.comp_apply]
  split <;> rfl

theorem turns_release (table : Table ν) (name : ν) :
    (table.release name).turns.Sublist table.turns := by
  rw [Table.release]
  split
  case h_2 => exact List.Sublist.refl _
  case h_1 claim _ =>
    split
    case isFalse => exact List.Sublist.refl _
    case isTrue =>
      have left : ((table.drop name).handOver claim.slot).turns.Sublist table.turns :=
        (turns_handOver (table.drop name) claim.slot) ▸ turns_drop table name
      dsimp only
      split <;> exact left

theorem turns_cancel (table : Table ν) (name : ν) :
    (table.cancel name).turns.Sublist table.turns := by
  rw [Table.cancel]
  split
  case h_2 => exact List.Sublist.refl _
  case h_1 claim _ =>
    split
    case h_1 => exact List.Sublist.refl _
    case h_2 => exact (turns_handOver (table.drop name) claim.slot) ▸ turns_drop table name
    case h_3 => exact turns_drop table name

/-- Where a key is claimed and not held, one claim to it is older than all others, and holds it after
its next poll. -/
theorem Queued.next (h : table.Queued) (hw : table.WellFormed)
    (claimed : table.grip name = some (key, held))
    (free : ∀ other, table.grip other ≠ some (key, true)) :
    ∃ first, table.grip first = some (key, false) ∧
      (table.poll first).grip first = some (key, true) ∧
      ∀ other held, table.grip other = some (key, held) → other ≠ first →
        [(first, key), (other, key)].Sublist table.turns := by
  obtain ⟨claim, hc, rfl, rfl, -⟩ := (grip_eq_some hw).mp claimed
  obtain ⟨first, hf⟩ : ∃ first, table.claims.find? (·.key == claim.key) = some first :=
    Option.isSome_iff_exists.mp (List.find?_isSome.mpr ⟨claim, hc, by simp⟩)
  obtain ⟨own, before, after, split, none⟩ := List.find?_eq_some_iff_append.mp hf
  have own : first.key = claim.key := by simpa using own
  have hm : first ∈ table.claims := List.mem_of_find?_eq_some hf
  have later : ∀ other ∈ table.claims, other.key = claim.key → other = first ∨ other ∈ after := by
    intro other ho same
    rcases List.mem_append.mp (split ▸ ho) with ho | ho
    · exact absurd (none other ho) (by simp [same])
    · exact List.mem_cons.mp ho
  obtain ⟨owner, ho, slots, has⟩ := h.served first hm
  -- one slot is entered for one key
  have entries : owner.entry = first.entry :=
    List.inj_on_of_nodup_map hw.slots (hw.entered owner ho) (hw.entered first hm) slots
  have keys : owner.key = first.key := congrArg Prod.fst entries
  have owns : owner = first := by
    rcases later owner ho (keys.trans own) with same | ho
    · exact same
    · have behind := (List.pairwise_append.mp (split ▸ h.behind)).2.1
      exact absurd ((List.pairwise_cons.mp behind).1 owner ho slots.symm) has
  subst owns
  have chosen : owner.standing = .chosen := by
    have not : owner.standing ≠ .held := fun held =>
      free owner.name ((grip_eq_some hw).mpr ⟨owner, hm, rfl, own, by simp [held]⟩)
    cases hs : owner.standing with
    | waiting => exact absurd hs has
    | chosen => rfl
    | held => exact absurd hs not
  refine ⟨owner.name, ?_, ?_, fun other held hg ne => ?_⟩
  · exact (grip_eq_some hw).mpr ⟨owner, hm, rfl, own, by simp [chosen]⟩
  · rw [grip_poll_chosen (hw.claim?_of_mem hm) chosen, own]
  · obtain ⟨second, hs, rfl, same, -⟩ := (grip_eq_some hw).mp hg
    have behind : second ∈ after :=
      (later second hs same).resolve_left fun heq => ne (congrArg Claim.name heq)
    have two : [owner, second].Sublist table.claims := by
      rw [split]
      exact ((List.singleton_sublist.mpr behind).cons_cons _).trans (List.sublist_append_right _ _)
    have pairs := two.map fun claim => (claim.name, claim.key)
    rwa [List.map_cons, List.map_singleton, own, same] at pairs

end BlockVolume.Lock.Table
