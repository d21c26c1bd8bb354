import BlockVolume.Mount.System
import BlockVolume.Proofs.History
import BlockVolume.Proofs.Mount.TableGrammar
import Mathlib.Logic.Function.Iterate
/-!
Reads of a file that may change between them.

A read is fresh if it succeeds with another content than the read before it. The file is read as
long as all reads are fresh: the first read that is not is the last one, and what it gives is the
result, an error or the content that was given twice in a row. If all reads that may be made are
fresh, the file is inconsistent. So a mount table is never taken from a single read.
-/

namespace BlockVolume.Mount

open BlockVolume.Host (Failure)
open BlockVolume.Program
open BlockVolume.Text (Bytes)

section Sequences

variable {ε : Type} {inconsistent : ε} {reads : Nat → Except ε Bytes} {granted made left i : Nat}
  {last : Bytes} {outcome : Except ε Bytes}

/-- The reads of a sequence, one after the other. The state is the number of those made. -/
def nextOf (reads : Nat → Except ε Bytes) : ExceptT ε (StateM Nat) Bytes :=
  ExceptT.mk fun made => (reads made, made + 1)

/-- A read succeeds, and not with the content of the read before it. -/
def IsFresh (reads : Nat → Except ε Bytes) : (i : Nat) → Prop
  | 0 => ∃ content, reads 0 = .ok content
  | i + 1 => ∃ content, reads (i + 1) = .ok content ∧ reads i ≠ .ok content

/-- What reading comes to, and the number of reads made, if `granted` of them may be made. -/
inductive ReadsTo (inconsistent : ε) (granted : Nat) (reads : Nat → Except ε Bytes) :
    Except ε Bytes → Nat → Prop where
  /-- The last read is the first that is not fresh. -/
  | stopped {last : Nat} (before : ∀ i < last, IsFresh reads i) (stale : ¬IsFresh reads last)
      (within : last < granted) : ReadsTo inconsistent granted reads (reads last) (last + 1)
  /-- All reads that are granted are fresh. -/
  | spent (all : ∀ i < granted, IsFresh reads i) :
      ReadsTo inconsistent granted reads (.error inconsistent) granted

/-! ### Fresh reads -/

theorem IsFresh.exists_ok (h : IsFresh reads i) : ∃ content, reads i = .ok content := by
  cases i with
  | zero => exact h
  | succ i =>
    obtain ⟨content, read, -⟩ := h
    exact ⟨content, read⟩

theorem not_isFresh_of_error {e : ε} (failed : reads i = .error e) : ¬IsFresh reads i := by
  intro fresh
  obtain ⟨content, read⟩ := fresh.exists_ok
  rw [failed] at read
  cases read

/-- After a read that succeeded the next one is fresh, fails, or gives the same again. -/
theorem not_isFresh_succ (before : reads i = .ok last) :
    ¬IsFresh reads (i + 1) ↔
      (∃ e, reads (i + 1) = .error e) ∨ reads (i + 1) = .ok last := by
  rw [IsFresh, before]
  cases reads (i + 1) with
  | error e => simp
  | ok content => simp [eq_comm]

/-! ### What reading comes to -/

theorem ReadsTo.made_le (h : ReadsTo inconsistent granted reads outcome made) : made ≤ granted := by
  cases h with
  | stopped _ _ within => exact within
  | spent => exact Nat.le_refl granted

/-- What the first read gives that is not fresh is the result. -/
theorem ReadsTo.of_read {last : Nat} (read : reads last = outcome)
    (before : ∀ i < last, IsFresh reads i) (stale : ¬IsFresh reads last) (within : last < granted) :
    ReadsTo inconsistent granted reads outcome (last + 1) :=
  read ▸ .stopped before stale within

/-- Nothing is read after the first read that is not fresh. -/
theorem ReadsTo.of_stale (h : ReadsTo inconsistent granted reads outcome made) {last : Nat}
    (before : ∀ i < last, IsFresh reads i) (stale : ¬IsFresh reads last) (within : last < granted) :
    outcome = reads last ∧ made = last + 1 := by
  cases h with
  | @stopped other before' stale' _ =>
    obtain less | rfl | more := Nat.lt_trichotomy other last
    · exact absurd (before other less) stale'
    · exact ⟨rfl, rfl⟩
    · exact absurd (before' last more) stale
  | spent all => exact absurd (all last within) stale

theorem ReadsTo.of_fresh (h : ReadsTo inconsistent granted reads outcome made)
    (all : ∀ i < granted, IsFresh reads i) : outcome = .error inconsistent ∧ made = granted := by
  cases h with
  | stopped _ stale within => exact absurd (all _ within) stale
  | spent => exact ⟨rfl, rfl⟩

/-- A content is the result exactly if it is the first that two reads in a row give. -/
theorem ReadsTo.eq_ok_iff (h : ReadsTo inconsistent (granted + 1) reads outcome made)
    (content : Bytes) :
    outcome = .ok content ↔ ∃ i < granted, (∀ j ≤ i, IsFresh reads j) ∧
      reads i = .ok content ∧ reads (i + 1) = .ok content := by
  constructor
  · intro found
    cases h with
    | spent => cases found
    | @stopped last before stale within =>
      cases last with
      | zero => exact absurd ⟨content, found⟩ stale
      | succ i =>
        obtain ⟨first, read⟩ := (before i (Nat.lt_succ_self i)).exists_ok
        obtain ⟨e, failed⟩ | again := (not_isFresh_succ read).mp stale
        · rw [failed] at found
          cases found
        · rw [again] at found
          obtain rfl := Except.ok.inj found
          exact ⟨i, Nat.lt_of_succ_lt_succ within, fun j le => before j (Nat.lt_succ_of_le le),
            read, again⟩
  · rintro ⟨i, within, before, read, again⟩
    have stale : ¬IsFresh reads (i + 1) := (not_isFresh_succ read).mpr (.inr again)
    have result := h.of_stale (fun j less => before j (Nat.le_of_lt_succ less)) stale
      (Nat.succ_lt_succ within)
    exact result.1.trans again

/-- An error is the result exactly if a read fails with it before two in a row have agreed, or if it
tells that all reads that are granted are fresh. -/
theorem ReadsTo.eq_error_iff (h : ReadsTo inconsistent (granted + 1) reads outcome made) (e : ε) :
    outcome = .error e ↔
      (∃ i ≤ granted, (∀ j < i, IsFresh reads j) ∧ reads i = .error e) ∨
        (∀ i ≤ granted, IsFresh reads i) ∧ e = inconsistent := by
  constructor
  · intro failed
    cases h with
    | stopped before _ within => exact .inl ⟨_, Nat.le_of_lt_succ within, before, failed⟩
    | spent all =>
      obtain rfl := Except.error.inj failed
      exact .inr ⟨fun i le => all i (Nat.lt_succ_of_le le), rfl⟩
  · rintro (⟨i, within, before, failed⟩ | ⟨all, rfl⟩)
    · have stale := not_isFresh_of_error failed
      exact (h.of_stale before stale (Nat.lt_succ_of_le within)).1.trans failed
    · exact (h.of_fresh fun i less => all i (Nat.le_of_lt_succ less)).1

/-- Reading fails though no read has failed exactly if all reads that are granted are fresh. -/
theorem ReadsTo.inconsistent_iff (h : ReadsTo inconsistent (granted + 1) reads outcome made) :
    (outcome = .error inconsistent ∧ ∀ i < made, ∃ content, reads i = .ok content) ↔
      ∀ i ≤ granted, IsFresh reads i := by
  constructor
  · rintro ⟨failed, read⟩
    cases h with
    | @stopped last _ _ _ =>
      obtain ⟨content, found⟩ := read last (Nat.lt_succ_self last)
      rw [found] at failed
      cases failed
    | spent all => exact fun i le => all i (Nat.lt_succ_of_le le)
  · intro all
    obtain ⟨rfl, rfl⟩ := h.of_fresh fun i less => all i (Nat.le_of_lt_succ less)
    exact ⟨rfl, fun i less => (all i (Nat.le_of_lt_succ less)).exists_ok⟩

/-! ### The loop -/

theorem run_nextOf_bind (reads : Nat → Except ε Bytes) (made : Nat)
    (next : Bytes → ExceptT ε (StateM Nat) Bytes) :
    (nextOf reads >>= next).run.run made =
      match reads made with
      | .ok content => (next content).run.run (made + 1)
      | .error e => (.error e, made + 1) := by
  change (ExceptT.bindCont next (reads made) : StateM Nat _) (made + 1) = _
  cases reads made <;> rfl

/-- After fresh reads, the last of which is known, the loop goes on to what reading comes to. -/
theorem readsTo_readUntilAgreed (fresh : ∀ j ≤ i, IsFresh reads j) (known : reads i = .ok last) :
    let run := (readUntilAgreed inconsistent (nextOf reads) left last).run.run (i + 1)
    ReadsTo inconsistent (i + 1 + left) reads run.1 run.2 := by
  have before : ∀ j < i + 1, IsFresh reads j := fun j less => fresh j (Nat.le_of_lt_succ less)
  -- all reads so far stay fresh, and `last` stays what the next one is held against
  induction left generalizing i last with
  | zero => exact .spent before
  | succ left ih =>
    have more : i + 1 < i + 1 + (left + 1) := by omega
    rw [readUntilAgreed, run_nextOf_bind]
    cases read : reads (i + 1) with
    | error e => exact .of_read read before (not_isFresh_of_error read) more
    | ok content =>
      dsimp only
      split
      case isTrue same =>
        subst same
        exact .of_read read before ((not_isFresh_succ known).mpr (.inr read)) more
      case isFalse other =>
        have next : IsFresh reads (i + 1) := ⟨content, read, by simpa [known, eq_comm] using other⟩
        have later : ∀ j ≤ i + 1, IsFresh reads j := by
          intro j le
          rcases Nat.le_succ_iff.mp le with earlier | rfl
          · exact fresh j earlier
          · exact next
        have rest := ih later read fun j less => later j (Nat.le_of_lt_succ less)
        rwa [Nat.add_right_comm (i + 1) 1 left] at rest

theorem readsTo_consistentRead (inconsistent : ε) (attempts : Nat) (reads : Nat → Except ε Bytes) :
    let run := (consistentRead inconsistent attempts (nextOf reads)).run.run 0
    ReadsTo inconsistent (attempts + 1) reads run.1 run.2 := by
  rw [consistentRead, run_nextOf_bind]
  cases read : reads 0 with
  | error e => exact .of_read read (by simp) (not_isFresh_of_error read) (Nat.succ_pos attempts)
  | ok first =>
    have fresh : ∀ j ≤ 0, IsFresh reads j := fun j le => Nat.le_zero.mp le ▸ ⟨first, read⟩
    rw [Nat.add_comm attempts 1]
    exact readsTo_readUntilAgreed fresh read

/-- The first content that two reads in a row give is the result, if all reads before them succeed.
At most one read more is made than there are attempts. The error of a read is the result if no two
reads have agreed before it. If all reads succeed, each with something else than the one before, the
file is inconsistent; it is told as that, where no read has failed, in no other case. -/
theorem consistentRead_agreed_twice (inconsistent : ε) (attempts : Nat)
    (reads : Nat → Except ε Bytes) :
    let (outcome, made) := (consistentRead inconsistent attempts (nextOf reads)).run.run 0
    (∀ content, outcome = .ok content ↔ ∃ i < attempts, (∀ j ≤ i, IsFresh reads j) ∧
      reads i = .ok content ∧ reads (i + 1) = .ok content) ∧
    made ≤ attempts + 1 ∧
    (∀ e, outcome = .error e ↔
      (∃ i ≤ attempts, (∀ j < i, IsFresh reads j) ∧ reads i = .error e) ∨
        (∀ i ≤ attempts, IsFresh reads i) ∧ e = inconsistent) ∧
    ((outcome = .error inconsistent ∧ ∀ i < made, ∃ content, reads i = .ok content) ↔
      ∀ i ≤ attempts, IsFresh reads i) := by
  have readsTo := readsTo_consistentRead inconsistent attempts reads
  exact ⟨readsTo.eq_ok_iff, readsTo.made_le, readsTo.eq_error_iff, readsTo.inconsistent_iff⟩

example :
    (consistentRead "changes" 3 (nextOf fun i => .ok [UInt8.ofNat (min i 1)])).run.run 0 =
        (.ok [1], 3) ∧
      (consistentRead "changes" 3 (nextOf fun i => .ok [UInt8.ofNat i])).run.run 0 =
        (.error "changes", 4) :=
  ⟨rfl, rfl⟩

end Sequences

section Surroundings

variable {σ : Type} (answer : (q : ToolAsk) → σ → q.Answer × σ) (s : σ)

/-- The surroundings after so many reads of the table. -/
def afterReads (made : Nat) : σ := (fun s => (answer .readTable s).2)^[made] s

/-- The reads of the table that the surroundings give, one after the other. -/
def tableReads (i : Nat) : Except Failure Bytes := (answer .readTable (afterReads answer s i)).1

theorem answer_readTable (made : Nat) : answer .readTable (afterReads answer s made) =
    (tableReads answer s made, afterReads answer s (made + 1)) := by
  rw [afterReads, afterReads, Function.iterate_succ_apply']
  rfl

theorem run_readTable_bind (made : Nat) (next : Bytes → ExceptT Failure ToolProgram Bytes) :
    (ExceptT.run (ExceptT.mk ToolAsk.readTable.ask >>= next)).run answer
        (afterReads answer s made) =
      match tableReads answer s made with
      | .ok content => (next content).run.run answer (afterReads answer s (made + 1))
      | .error e => (.error e, afterReads answer s (made + 1)) := by
  have read : (ExceptT.mk ToolAsk.readTable.ask).run.run answer (afterReads answer s made) =
      (tableReads answer s made, afterReads answer s (made + 1)) := answer_readTable answer s made
  rw [run_step_bind, read]
  cases tableReads answer s made <;> rfl

/-- In any surroundings the loop does what it does with the reads that they give. -/
theorem run_readUntilAgreed (inconsistent : Failure) (left made : Nat) (last : Bytes) :
    (readUntilAgreed inconsistent (ExceptT.mk ToolAsk.readTable.ask) left last).run.run answer
        (afterReads answer s made) =
      let run :=
        (readUntilAgreed inconsistent (nextOf (tableReads answer s)) left last).run.run made
      (run.1, afterReads answer s run.2) := by
  induction left generalizing made last with
  | zero => rfl
  | succ left ih =>
    rw [readUntilAgreed, readUntilAgreed, run_readTable_bind, run_nextOf_bind]
    cases tableReads answer s made with
    | error e => rfl
    | ok content =>
      dsimp only
      split
      case isTrue => rfl
      case isFalse => exact ih (made + 1) content

theorem run_consistentRead (inconsistent : Failure) (attempts : Nat) :
    (consistentRead inconsistent attempts (ExceptT.mk ToolAsk.readTable.ask)).run.run answer s =
      let run := (consistentRead inconsistent attempts (nextOf (tableReads answer s))).run.run 0
      (run.1, afterReads answer s run.2) := by
  rw [consistentRead, consistentRead, run_nextOf_bind]
  refine (run_readTable_bind answer s 0 _).trans ?_
  cases tableReads answer s 0 with
  | error e => rfl
  | ok first => exact run_readUntilAgreed answer s inconsistent attempts 1 first

/-- The mounts of the host are those that a text tells which two reads in a row have given. -/
theorem SystemMounter.list_eq_ok_iff (table : MountTable) :
    (SystemMounter.list.run.run answer s).1 = .ok table ↔
      ∃ content, (∃ i < maxTableReads, (∀ j ≤ i, IsFresh (tableReads answer s) j) ∧
        tableReads answer s i = .ok content ∧ tableReads answer s (i + 1) = .ok content) ∧
        TellsTable content table := by
  have readsTo := readsTo_consistentRead (inconsistentTable SystemMounter.tablePath) maxTableReads
    (tableReads answer s)
  simp only [← readsTo.eq_ok_iff, ← parseTable_eq_ok_iff]
  rw [SystemMounter.list, readTable, run_step_bind, run_step_adapt, run_consistentRead]
  dsimp only
  generalize (consistentRead _ _ (nextOf (tableReads answer s))).run.run 0 = run
  obtain ⟨outcome, made⟩ := run
  cases outcome with
  | error e => simp [Except.mapError]
  | ok content => simp [Except.mapError, run_step_ofExcept]

end Surroundings
end BlockVolume.Mount
