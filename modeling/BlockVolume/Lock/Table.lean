import BlockVolume.Ask
import BlockVolume.Text.Quoted
/-!
The lock table: one slot for each resource that is held or waited for.

A claim takes the slot that the table has for its key, or a fresh one. A slot goes to its claims
first come, first served; a claim that is handed the slot while it waits notices at its next poll.
Entries go by the count of the references to their slot — at a release, when there is none but the
table's and that of the claim released, or at the next start of any claim, when there is none but
the table's.
-/

namespace BlockVolume.Lock

open BlockVolume.Text (quote record)

/-- How far a claim has come: it waits, was handed the slot and has not noticed, or holds it. -/
inductive Standing where | waiting | chosen | held
  deriving DecidableEq

/-- One acquisition of a key, from its start to its end. -/
structure Claim (ν : Type) where
  name : ν
  key : LockKey
  slot : Nat
  standing : Standing

/-- The entries of the table, and all claims, the oldest first. -/
structure Table (ν : Type) where
  entries : List (LockKey × Nat)
  claims : List (Claim ν)
  /-- The slots made so far. -/
  slots : Nat

/-- What can happen to a lock table. -/
inductive Event (ν : Type) where
  /-- A claim is started and looks for the first time. -/
  | start (name : ν) (key : LockKey)
  /-- A waiting claim looks again. -/
  | poll (name : ν)
  /-- A held claim is given back. -/
  | release (name : ν)
  /-- A waiting claim is given up. -/
  | cancel (name : ν)

namespace Table

variable {ν : Type} [DecidableEq ν]

/-- A table without claims. -/
def empty : Table ν := ⟨[], [], 0⟩

/-- The references to a slot: one of each entry, and two of each claim — its own, and that of the
lock it holds or waits for. -/
def references (table : Table ν) (slot : Nat) : Nat :=
  table.entries.countP (·.2 == slot) + 2 * table.claims.countP (·.slot == slot)

/-- The slot was handed to a claim. -/
def isTaken (table : Table ν) (slot : Nat) : Bool :=
  table.claims.any fun claim => claim.slot == slot && claim.standing != .waiting

/-- Drops the entries to whose slot nobody else refers. -/
def sweep (table : Table ν) : Table ν :=
  { table with entries := table.entries.filter fun (_, slot) => decide (1 < table.references slot) }

/-- The claim with a name. -/
def claim? (table : Table ν) (name : ν) : Option (Claim ν) :=
  table.claims.find? (·.name == name)

/-- Marks the first waiting claim of a slot as chosen. -/
def choose (slot : Nat) : List (Claim ν) → List (Claim ν)
  | [] => []
  | claim :: rest =>
    if claim.slot = slot ∧ claim.standing = .waiting then { claim with standing := .chosen } :: rest
    else claim :: choose slot rest

/-- Hands a slot that has become free to its first waiting claim. -/
def handOver (table : Table ν) (slot : Nat) : Table ν :=
  { table with claims := choose slot table.claims }

/-- Takes a claim out. -/
def drop (table : Table ν) (name : ν) : Table ν :=
  { table with claims := table.claims.filter (·.name != name) }

/-- The slot that the table has for a key — a fresh one is entered where there is none. -/
def slotOf (table : Table ν) (key : LockKey) : Table ν × Nat :=
  match table.entries.lookup key with
  | some slot => (table, slot)
  | none =>
    ({ table with entries := table.entries ++ [(key, table.slots)], slots := table.slots + 1 },
      table.slots)

/-- Starts a claim after a sweep; it holds the slot at once if nobody has it. -/
def start (table : Table ν) (name : ν) (key : LockKey) : Table ν :=
  if (table.claim? name).isSome then table
  else
    let (table, slot) := table.sweep.slotOf key
    let standing := if table.isTaken slot then Standing.waiting else .held
    { table with claims := table.claims ++ [⟨name, key, slot, standing⟩] }

/-- Lets a chosen claim notice that it has the slot. -/
def poll (table : Table ν) (name : ν) : Table ν :=
  { table with
    claims := table.claims.map fun claim =>
      if claim.name = name ∧ claim.standing = .chosen then { claim with standing := .held }
      else claim }

/-- Gives a held slot back: the lock goes to the next claim, and the entry goes if nobody refers to
the slot any more but the entry and the claim itself, which still has its own reference. -/
def release (table : Table ν) (name : ν) : Table ν :=
  match table.claim? name with
  | some claim =>
    if claim.standing = .held then
      let table := (table.drop name).handOver claim.slot
      if table.references claim.slot + 1 ≤ 2 ∧ table.entries.lookup claim.key = some claim.slot then
        { table with entries := table.entries.filter fun (key, _) => key != claim.key }
      else table
    else table
  | none => table

/-- Gives up a claim that does not hold its slot yet; a slot it was handed goes to the next claim.
-/
def cancel (table : Table ν) (name : ν) : Table ν :=
  match table.claim? name with
  | some claim =>
    match claim.standing with
    | .held => table
    | .chosen => (table.drop name).handOver claim.slot
    | .waiting => table.drop name
  | none => table

/-- One event. -/
def step (table : Table ν) : Event ν → Table ν
  | .start name key => table.start name key
  | .poll name => table.poll name
  | .release name => table.release name
  | .cancel name => table.cancel name

/-- Events in order. -/
def run (events : List (Event ν)) : Table ν :=
  events.foldl step empty

/-- The claims that hold their slot. -/
def held (table : Table ν) : List (Claim ν) :=
  table.claims.filter (·.standing == .held)

/-- The claims that do not hold their slot yet, the oldest first. -/
def waiting (table : Table ν) : List (Claim ν) :=
  table.claims.filter (·.standing != .held)

/-- The number of resources tracked. -/
def size (table : Table ν) : Nat := table.entries.length

/-- The table written out. -/
def describe (table : Table ν) : String :=
  record "LockManager" [("entries", toString table.size)]

end Table

/-- The key in short. -/
def keyText (key : LockKey) : String := key.node ++ "/" ++ key.disk

/-- A held lock written out. -/
def guardText (key : LockKey) : String :=
  record "ResourceGuard"
    [("key", record "ResourceLockKey"
      [("node_id", quote key.node), ("disk_id", quote key.disk)])]

end BlockVolume.Lock
