import BlockVolume.Lock.Table
import Mathlib.Data.List.Pairwise
/-!
Mutual exclusion of the lock table.

Entries go by reference counts alone, in two places: at a start and at a release. What keeps a key
from getting a second slot is `WellFormed`, which every event preserves — each claim's key stands in
the table with the slot of the claim, so that slot is counted at least three times, and no two
claims have one slot between them. Hence no two held claims ever have equal keys.
-/

namespace BlockVolume.Lock

variable {ν : Type}

/-- The entry that a claim goes by. -/
def Claim.entry (claim : Claim ν) : LockKey × Nat := (claim.key, claim.slot)

/-- Of two claims to one slot, one still waits. -/
def Claim.Apart (a b : Claim ν) : Prop :=
  a.slot = b.slot → a.standing = .waiting ∨ b.standing = .waiting

instance : Std.Symm (@Claim.Apart ν) where
  symm _ _ apart heq := (apart heq.symm).symm

namespace Table

/-- The invariant: names, keys and slots tell claims and entries apart, slots to come are new,
every claim stands in the table, and each slot has one owner at most. -/
structure WellFormed (table : Table ν) : Prop where
  names : (table.claims.map Claim.name).Nodup
  keys : (table.entries.map Prod.fst).Nodup
  slots : (table.entries.map Prod.snd).Nodup
  made : ∀ entry ∈ table.entries, entry.2 < table.slots
  entered : ∀ claim ∈ table.claims, claim.entry ∈ table.entries
  apart : table.claims.Pairwise Claim.Apart

/-! ### Looking up keys -/

/-- Where keys are distinct, an entry is what its key is looked up to. -/
theorem lookup_of_mem {entries : List (LockKey × Nat)} {key : LockKey} {slot : Nat}
    (keys : (entries.map Prod.fst).Nodup) (h : (key, slot) ∈ entries) :
    entries.lookup key = some slot := by
  induction entries with
  | nil => simp at h
  | cons first rest ih =>
    obtain ⟨other, made⟩ := first
    obtain ⟨fresh, keys⟩ := List.nodup_cons.mp keys
    rcases List.mem_cons.mp h with heq | later
    · obtain ⟨rfl, rfl⟩ := Prod.mk.inj heq
      exact List.lookup_cons_self
    · have ne : (key == other) = false := by
        refine beq_false_of_ne ?_
        rintro rfl
        exact fresh (List.mem_map.mpr ⟨_, later, rfl⟩)
      rw [List.lookup_cons, ne]
      exact ih keys later

theorem mem_of_lookup {entries : List (LockKey × Nat)} {key : LockKey} {slot : Nat}
    (h : entries.lookup key = some slot) : (key, slot) ∈ entries := by
  obtain ⟨before, after, rfl, -⟩ := List.lookup_eq_some_iff.mp h
  simp

/-! ### Counting references -/

/-- A slot of an entry to which a claim refers is counted three times at least, so no sweep takes
it. -/
theorem one_lt_references {table : Table ν} {claim : Claim ν} {key : LockKey}
    (hc : claim ∈ table.claims) (he : (key, claim.slot) ∈ table.entries) :
    1 < table.references claim.slot := by
  have entered : 0 < table.entries.countP (·.2 == claim.slot) :=
    List.countP_pos_iff.mpr ⟨_, he, by simp⟩
  have claimed : 0 < table.claims.countP (·.slot == claim.slot) :=
    List.countP_pos_iff.mpr ⟨claim, hc, by simp⟩
  rw [references]
  omega

/-- Where a slot in the table has no more references than the table's own and that of a claim that
is gone, no claim refers to it. -/
theorem ne_slot_of_references_le {table : Table ν} {key : LockKey} {slot : Nat}
    (he : (key, slot) ∈ table.entries) (hle : table.references slot + 1 ≤ 2) :
    ∀ claim ∈ table.claims, claim.slot ≠ slot := by
  rintro claim hc rfl
  have := one_lt_references hc he
  omega

/-! ### Handing over -/

/-- A claim that was handed a slot is otherwise what it was. -/
theorem mem_choose {slot : Nat} {claims : List (Claim ν)} {claim : Claim ν}
    (h : claim ∈ choose slot claims) :
    claim ∈ claims ∨ ∃ old ∈ claims, old.slot = slot ∧ claim = { old with standing := .chosen } := by
  induction claims with
  | nil => simp [choose] at h
  | cons first rest ih =>
    rw [choose] at h
    split at h
    case isTrue hw =>
      rcases List.mem_cons.mp h with rfl | h
      · exact Or.inr ⟨first, List.mem_cons_self, hw.1, rfl⟩
      · exact Or.inl (List.mem_cons_of_mem _ h)
    case isFalse =>
      rcases List.mem_cons.mp h with rfl | h
      · exact Or.inl List.mem_cons_self
      · rcases ih h with h | ⟨old, ho, heq⟩
        · exact Or.inl (List.mem_cons_of_mem _ h)
        · exact Or.inr ⟨old, List.mem_cons_of_mem _ ho, heq⟩

theorem map_name_choose (slot : Nat) (claims : List (Claim ν)) :
    (choose slot claims).map Claim.name = claims.map Claim.name := by
  induction claims with
  | nil => rfl
  | cons first rest ih =>
    rw [choose]
    split
    · rfl
    · rw [List.map_cons, List.map_cons, ih]

/-- Handing over a slot that no claim has leaves one owner at most. -/
theorem pairwise_choose {slot : Nat} {claims : List (Claim ν)}
    (free : ∀ claim ∈ claims, claim.slot = slot → claim.standing = .waiting)
    (apart : claims.Pairwise Claim.Apart) : (choose slot claims).Pairwise Claim.Apart := by
  induction claims with
  | nil => exact apart
  | cons first rest ih =>
    obtain ⟨hfirst, hrest⟩ := List.pairwise_cons.mp apart
    have later : ∀ claim ∈ rest, claim.slot = slot → claim.standing = .waiting :=
      fun claim hc => free claim (List.mem_cons_of_mem _ hc)
    rw [choose]
    split
    case isTrue hw =>
      -- the chosen claim is the only one that does not wait
      refine List.pairwise_cons.mpr ⟨fun claim hc heq => Or.inr ?_, hrest⟩
      exact later claim hc (heq.symm.trans hw.1)
    case isFalse =>
      refine List.pairwise_cons.mpr ⟨fun claim hc heq => ?_, ih later hrest⟩
      rcases mem_choose hc with hc | ⟨old, -, hs, rfl⟩
      · exact hfirst claim hc heq
      · exact Or.inl (free first List.mem_cons_self (heq.trans hs))

/-! ### One event -/

theorem WellFormed.sweep {table : Table ν} (h : table.WellFormed) : table.sweep.WellFormed where
  names := h.names
  keys := h.keys.sublist (List.filter_sublist.map _)
  slots := h.slots.sublist (List.filter_sublist.map _)
  made entry he := h.made entry (List.mem_filter.mp he).1
  entered claim hc := by
    have he := h.entered claim hc
    exact List.mem_filter.mpr ⟨he, decide_eq_true (one_lt_references hc he)⟩
  apart := h.apart

theorem WellFormed.handOver {table : Table ν} (h : table.WellFormed) {slot : Nat}
    (free : ∀ claim ∈ table.claims, claim.slot = slot → claim.standing = .waiting) :
    (table.handOver slot).WellFormed where
  names := by
    rw [Table.handOver, map_name_choose]
    exact h.names
  keys := h.keys
  slots := h.slots
  made := h.made
  entered claim hc := by
    rcases mem_choose hc with hc | ⟨old, ho, -, rfl⟩
    · exact h.entered claim hc
    · exact h.entered old ho
  apart := pairwise_choose free h.apart

/-- A claim to a slot of the table is added: it waits, or else nobody has the slot. -/
theorem WellFormed.add {table : Table ν} (h : table.WellFormed) (claim : Claim ν)
    (named : claim.name ∉ table.claims.map Claim.name) (entered : claim.entry ∈ table.entries)
    (apart : ∀ other ∈ table.claims, other.Apart claim) :
    WellFormed { table with claims := table.claims ++ [claim] } where
  names := by
    rw [List.map_append, List.nodup_append]
    refine ⟨h.names, List.pairwise_singleton _ _, ?_⟩
    rintro name hn _ hm rfl
    obtain rfl := List.mem_singleton.mp hm
    exact named hn
  keys := h.keys
  slots := h.slots
  made := h.made
  entered other ho := by
    rcases List.mem_append.mp ho with ho | ho
    · exact h.entered other ho
    · obtain rfl := List.mem_singleton.mp ho
      exact entered
  apart := by
    refine List.pairwise_append.mpr ⟨h.apart, List.pairwise_singleton _ _, ?_⟩
    intro other ho _ hm
    obtain rfl := List.mem_singleton.mp hm
    exact apart other ho

/-- The slot of a key stands in the table, which has the claims it had. -/
theorem WellFormed.slotOf {table : Table ν} (h : table.WellFormed) (key : LockKey) :
    (table.slotOf key).1.WellFormed ∧ (key, (table.slotOf key).2) ∈ (table.slotOf key).1.entries ∧
      (table.slotOf key).1.claims = table.claims := by
  rw [Table.slotOf]
  split
  case h_1 slot hl => exact ⟨h, mem_of_lookup hl, rfl⟩
  case h_2 hl =>
    refine ⟨⟨h.names, ?_, ?_, ?_, ?_, h.apart⟩, by simp, rfl⟩
    · -- a key that is looked up in vain is new
      have new : key ∉ table.entries.map Prod.fst := by
        intro hk
        obtain ⟨entry, he, rfl⟩ := List.mem_map.mp hk
        simpa using List.lookup_eq_none_iff.mp hl entry he
      simpa [List.nodup_append] using ⟨h.keys, fun k s he heq => new (List.mem_map.mpr ⟨_, he, heq⟩)⟩
    · have new : ∀ entry ∈ table.entries, entry.2 ≠ table.slots :=
        fun entry he => Nat.ne_of_lt (h.made entry he)
      simpa [List.nodup_append] using ⟨h.slots, fun s k he => new _ he⟩
    · intro entry he
      rcases List.mem_append.mp he with he | he
      · exact Nat.lt_succ_of_lt (h.made entry he)
      · obtain rfl := List.mem_singleton.mp he
        exact Nat.lt_succ_self _
    · exact fun claim hc => List.mem_append_left _ (h.entered claim hc)

variable [DecidableEq ν]

/-- Taking claims out keeps the invariant. -/
theorem WellFormed.drop {table : Table ν} (h : table.WellFormed) (name : ν) :
    (table.drop name).WellFormed where
  names := h.names.sublist (List.filter_sublist.map _)
  keys := h.keys
  slots := h.slots
  made := h.made
  entered claim hc := h.entered claim (List.mem_filter.mp hc).1
  apart := h.apart.sublist List.filter_sublist

/-- A slot whose owner is taken out is free. -/
theorem WellFormed.free_of_drop {table : Table ν} (h : table.WellFormed) {claim : Claim ν}
    (hc : claim ∈ table.claims) (owner : claim.standing ≠ .waiting) :
    ∀ other ∈ (table.drop claim.name).claims, other.slot = claim.slot → other.standing = .waiting := by
  intro other ho hs
  obtain ⟨ho, hn⟩ := List.mem_filter.mp ho
  have ne : other ≠ claim := by
    rintro rfl
    simp at hn
  exact (h.apart.forall hc ho ne.symm hs.symm).resolve_left owner

theorem WellFormed.start {table : Table ν} (h : table.WellFormed) (name : ν) (key : LockKey) :
    (table.start name key).WellFormed := by
  rw [Table.start]
  split
  case isTrue => exact h
  case isFalse hn =>
    obtain ⟨hw, he, hc⟩ := h.sweep.slotOf key
    rcases hs : table.sweep.slotOf key with ⟨entered, slot⟩
    rw [hs] at hw he hc
    refine hw.add ⟨name, key, slot, _⟩ ?_ he ?_
    · -- a sweep leaves the claims alone, and none of them has the name
      intro hm
      obtain ⟨claim, hm, heq⟩ := List.mem_map.mp hm
      rw [hc] at hm
      exact hn (List.find?_isSome.mpr ⟨claim, hm, by simpa using heq⟩)
    · intro other ho heq
      by_cases waits : other.standing = .waiting
      · exact Or.inl waits
      · have taken : entered.isTaken slot = true :=
          List.any_eq_true.mpr ⟨other, ho, by simpa [heq] using waits⟩
        exact Or.inr (if_pos taken)

theorem WellFormed.poll {table : Table ν} (h : table.WellFormed) (name : ν) :
    (table.poll name).WellFormed where
  names := by
    have same : (table.poll name).claims.map Claim.name = table.claims.map Claim.name := by
      rw [Table.poll, List.map_map]
      refine List.map_congr_left fun claim _ => ?_
      rw [Function.comp_apply]
      split <;> rfl
    rw [same]
    exact h.names
  keys := h.keys
  slots := h.slots
  made := h.made
  entered claim hc := by
    obtain ⟨old, ho, rfl⟩ := List.mem_map.mp hc
    split <;> exact h.entered old ho
  apart := by
    refine List.pairwise_map.mpr (h.apart.imp fun {a b} apart => ?_)
    -- a claim that notices did not wait before
    split <;> split <;> simp_all [Claim.Apart]

theorem WellFormed.release {table : Table ν} (h : table.WellFormed) (name : ν) :
    (table.release name).WellFormed := by
  rw [Table.release]
  split
  case h_2 => exact h
  case h_1 claim hf =>
    have hc : claim ∈ table.claims := List.mem_of_find?_eq_some hf
    have hn : claim.name = name := by simpa using List.find?_some hf
    split
    case isFalse => exact h
    case isTrue hs =>
      subst hn
      have free := h.free_of_drop hc (by simp [hs])
      have given := (h.drop claim.name).handOver free
      dsimp only
      split
      case isFalse => exact given
      case isTrue gone =>
        -- the entry that goes is that of the slot, to which no claim refers
        have unused := ne_slot_of_references_le (mem_of_lookup gone.2) gone.1
        refine ⟨given.names, given.keys.sublist (List.filter_sublist.map _),
          given.slots.sublist (List.filter_sublist.map _),
          fun entry he => given.made entry (List.mem_filter.mp he).1, ?_, given.apart⟩
        intro other ho
        refine List.mem_filter.mpr ⟨given.entered other ho, bne_iff_ne.mpr fun heq => ?_⟩
        have looked := lookup_of_mem given.keys (given.entered other ho)
        rw [show other.key = claim.key from heq, gone.2] at looked
        exact unused other ho (Option.some.inj looked).symm

theorem WellFormed.cancel {table : Table ν} (h : table.WellFormed) (name : ν) :
    (table.cancel name).WellFormed := by
  rw [Table.cancel]
  split
  case h_2 => exact h
  case h_1 claim hf =>
    have hc : claim ∈ table.claims := List.mem_of_find?_eq_some hf
    have hn : claim.name = name := by simpa using List.find?_some hf
    split
    case h_1 => exact h
    case h_2 chosen =>
      refine (h.drop name).handOver ?_
      rw [← hn]
      exact h.free_of_drop hc (by simp [chosen])
    case h_3 => exact h.drop name

/-- One event keeps the invariant. -/
theorem WellFormed.step {table : Table ν} (h : table.WellFormed) (event : Event ν) :
    (table.step event).WellFormed := by
  cases event with
  | start name key => exact h.start name key
  | poll name => exact h.poll name
  | release name => exact h.release name
  | cancel name => exact h.cancel name

/-! ### All runs -/

theorem WellFormed.foldl {table : Table ν} (h : table.WellFormed) (events : List (Event ν)) :
    (events.foldl Table.step table).WellFormed := by
  induction events generalizing table with
  | nil => exact h
  | cons event rest ih => exact ih (h.step event)

theorem wellFormed_run (events : List (Event ν)) : (run events).WellFormed := by
  refine WellFormed.foldl ?_ events
  constructor <;> simp [empty]

/-- After any events, no two held claims have equal keys, and each claim — held, chosen or waiting —
refers to the very slot that the table has for its key. -/
theorem run_exclusive (events : List (Event ν)) :
    ((run events).held.map Claim.key).Nodup ∧
      ∀ claim ∈ (run events).claims,
        (run events).entries.lookup claim.key = some claim.slot := by
  have h := wellFormed_run events
  have own : ∀ claim ∈ (run events).claims,
      (run events).entries.lookup claim.key = some claim.slot :=
    fun claim hc => lookup_of_mem h.keys (h.entered claim hc)
  refine ⟨List.pairwise_map.mpr ?_, own⟩
  have apart := h.apart.sublist (List.filter_sublist (p := fun claim => claim.standing == .held))
  refine apart.imp_of_mem fun {a b} ha hb apart heq => ?_
  obtain ⟨ha, hla⟩ := List.mem_filter.mp ha
  obtain ⟨hb, hlb⟩ := List.mem_filter.mp hb
  -- equal keys are looked up to equal slots
  have slots : a.slot = b.slot := by
    have hs := own b hb
    rw [← heq, own a ha] at hs
    exact Option.some.inj hs
  rcases apart slots with hw | hw
  · simp [hw] at hla
  · simp [hw] at hlb

end Table
end BlockVolume.Lock
