import BlockVolume.Proofs.Mount.Formatting
import BlockVolume.Proofs.Node.Frame
import BlockVolume.Proofs.Node.Publishing
import BlockVolume.Proofs.Node.Traffic
import BlockVolume.Proofs.Operation.Alphabet
/-!
No disk is formatted over data, whatever is done with a mounter that keeps books.

Each piece of work asks for a format only with the mount options that it was ordered with. So what
`Unspoilt` tells of questions holds while any works are under way at the same time, and a work that
was ordered read-only makes no format.
-/

namespace BlockVolume.Node

open BlockVolume.Mount (Ledger MountTable)
open BlockVolume.Operation (Attacher AttachAsk DetachAsk mountOptions)
open BlockVolume.Program
open BlockVolume.Rehearsal (Script bookkeeper)
open BlockVolume.Volume (Request)

variable {σ : Type}

/-- What can be done with a mounter. -/
inductive Work where
  | attach (attacher : Attacher) (request : Request) (target : Path)
  | detach (attacher : Attacher) (request : Request) (target : Path)
  | publish (staging target : Path) (readOnly : Bool)
  | unpublish (target : Path)
  | mount (source : Option Path) (target : Path) (kind : String) (options : List String)
  | unmount (target : Path) (forceAfter : Option Nat)
  | formatAndMount (device target : Path) (kind : String) (options : List String)

namespace Work

/-- How a work is done. -/
def program : Work → NodeProgram Answer
  | .attach attacher request target => do
    return (← attacher.execute .attach request target).status
  | .detach attacher request target => do
    return (← attacher.execute .detach request target).status
  | .publish staging target readOnly => (Node.publish staging target readOnly).run
  | .unpublish target => (Node.unpublish target).run
  | .mount source target kind options => do
    return (← (MountAsk.mount source target kind options).ask).mapError (⟨.internal, ·.message⟩)
  | .unmount target forceAfter => do
    return (← (MountAsk.unmount target forceAfter).ask).mapError (⟨.internal, ·.message⟩)
  | .formatAndMount device target kind options => do
    return (← (MountAsk.formatAndMount device target kind options).ask).mapError
      (⟨.internal, ·.message⟩)

/-- The mount options that a work was ordered with. -/
def options : Work → List String
  | .attach _ request _ => mountOptions request
  | .publish _ _ readOnly => publishOptions readOnly
  | .mount _ _ _ options | .formatAndMount _ _ _ options => options
  | .detach _ _ _ | .unpublish _ | .unmount _ _ => []

/-- A question that is no question for a format, or one with the options of the work. -/
def Asks (work : Work) (question : Ask) : Prop :=
  ∀ device target kind options,
    question = .mounter (.formatAndMount device target kind options) → options = work.options

variable {work : Work}

theorem asks_of_ne {question : Ask}
    (ne : ∀ device target kind options,
      question ≠ .mounter (.formatAndMount device target kind options)) : work.Asks question :=
  fun device target kind options same => absurd same (ne device target kind options)

theorem asks_of_isInspecting {question : Ask} (h : question.isInspecting) : work.Asks question :=
  asks_of_ne fun _ _ _ _ same => by rw [same] at h; cases h

theorem asks_of_isLooking {question : Ask} (h : question.isLooking) : work.Asks question :=
  asks_of_ne fun _ _ _ _ same => by rw [same] at h; cases h

theorem only_unpublish {target : Path} : Only work.Asks (Node.unpublish target).run := by
  refine Only.step_bind (Only.lift (only_query (asks_of_isInspecting rfl))) fun looked => ?_
  refine Only.step_bind only_internal fun mounted => ?_
  cases mounted with
  | none => exact only_pure _
  | some mounted =>
    exact Only.step_bind (Only.lift (only_query (asks_of_ne (by simp)))) fun _ => only_internal

theorem only_program (work : Work) : Only work.Asks work.program := by
  cases work with
  | attach attacher request target =>
    refine Only.bind (fun es outcome h e he => ?_) fun _ => only_pure _
    have asked := Operation.only_execute h e he
    generalize e.question = question at asked
    cases asked with
    | look look => exact asks_of_isLooking look
    | inspect inspect => exact asks_of_isInspecting inspect
    | attach api => exact asks_of_ne (by simp)
    | formatAndMount device =>
      intro _ _ _ _ same
      cases same
      rfl
  | detach attacher request target =>
    refine Only.bind (fun es outcome h e he => ?_) fun _ => only_pure _
    have asked := Operation.only_execute h e he
    generalize e.question = question at asked
    cases asked with
    | look look => exact asks_of_isLooking look
    | inspect inspect => exact asks_of_isInspecting inspect
    | _ => exact asks_of_ne (by simp)
  | publish staging target readOnly =>
    intro es result h e he
    have asked := only_publish h e he
    generalize e.question = question at asked
    cases asked with
    | create => exact asks_of_isInspecting rfl
    | look => exact asks_of_isInspecting rfl
    | mount => exact asks_of_ne (by simp)
  | unpublish target => exact only_unpublish
  | mount source target kind options =>
    exact Only.bind (only_query (asks_of_ne (by simp))) fun _ => only_pure _
  | unmount target forceAfter =>
    exact Only.bind (only_query (asks_of_ne (by simp))) fun _ => only_pure _
  | formatAndMount device target kind options =>
    refine Only.bind (only_query fun _ _ _ _ same => ?_) fun _ => only_pure _
    cases same
    rfl

end Work

/-! ### Works under way -/

/-- A question leaves the books alone, or is answered from them. -/
theorem World.books_answer (cloud : CloudModel σ) (number : Nat) (question : Ask)
    (world : World σ Ledger) :
    (world.answer cloud bookkeeper number question).2.2.mounter = world.mounter ∨
      ∃ asked, question = .mounter asked ∧ Ledger.Changed asked world.mounter
        (world.answer cloud bookkeeper number question).2.2.mounter := by
  cases question with
  | mounter asked => exact Or.inr ⟨asked, rfl, Ledger.changed_answer asked world.tree world.mounter⟩
  | cloud question =>
    cases question with
    | client credentials =>
      simp only [answer, answerCloud]
      split <;> exact Or.inl rfl
    | _ => exact Or.inl rfl
  | tree question => cases question <;> exact Or.inl rfl
  | _ => exact Or.inl rfl

namespace Traffic

variable {cloud : CloudModel σ} {traffic next : Traffic σ Ledger Work Answer} {start : Ledger}

/-- A move leaves the books alone, or answers one question from them. -/
theorem books_step (moved : Step Work.program cloud bookkeeper traffic next) :
    next.world.mounter = traffic.world.mounter ∨
      ∃ asked, Ledger.Changed asked traffic.world.mounter next.world.mounter := by
  cases moved with
  | @ask number order question rest reply wait world here free answered =>
    have changed := World.books_answer cloud number question (traffic.world.polled number)
    rw [answered] at changed
    exact changed.imp_right fun ⟨asked, _, changed⟩ => ⟨asked, changed⟩
  | _ => exact Or.inl rfl

theorem formatOf?_step {device : Path} {kind : String}
    (found : traffic.world.mounter.formatOf? device = some kind)
    (moved : Step Work.program cloud bookkeeper traffic next) :
    next.world.mounter.formatOf? device = some kind := by
  rcases books_step moved with same | ⟨asked, changed⟩
  · rwa [same]
  · exact changed.formatOf? found

theorem unspoilt_step (h : start.Unspoilt traffic.world.mounter)
    (moved : Step Work.program cloud bookkeeper traffic next) :
    start.Unspoilt next.world.mounter := by
  rcases books_step moved with same | ⟨asked, changed⟩
  · rwa [same]
  · exact h.changed changed

/-- A work that was ordered read-only makes no format when it goes on. -/
theorem formatted_goOn (tracked : Tracked Work.program traffic) {number : Nat}
    {call : Call Work Answer} (here : traffic.calls[number]? = some call)
    (readOnly : "ro" ∈ call.order.options) :
    (traffic.goOn cloud bookkeeper number).world.mounter.formatted =
      traffic.world.mounter.formatted := by
  rcases world_goOn traffic cloud bookkeeper number with same | same |
    ⟨work, question, rest, here', same⟩
  · rw [same]
  · rw [same]
    rfl
  · rw [same]
    obtain rfl := Option.some.inj (here.symm.trans here')
    rcases World.books_answer cloud number question (traffic.world.polled number) with
      same | ⟨asked, rfl, changed⟩
    · rw [same]
      rfl
    · cases changed with
      | kept formats formatted => exact formatted
      | made asked writable =>
        subst asked
        have own := (Work.only_program work).asks (tracked.along number _ here)
        exact absurd (own _ _ _ _ rfl ▸ readOnly) writable

/-- Whatever is done with a mounter that keeps books, in whatever order the works go on, and however
they end: a format once recorded stays, each device is formatted once at most, and only one that had
no format at the start, and no work that was ordered read-only makes a format. -/
theorem formats_kept (cloud : CloudModel σ) (cloudState : σ) (table : MountTable)
    (formats : List (Path × String)) (tree : Host.FileTree) (moves : List (Move Work)) :
    let start : Ledger := ⟨table, formats, []⟩
    let after (moves : List (Move Work)) : Traffic σ Ledger Work Answer :=
      run Work.program cloud bookkeeper moves (.start cloudState start tree)
    let books (moves : List (Move Work)) : Ledger := (after moves).world.mounter
    (∀ later device kind, (books moves).formatOf? device = some kind →
      (books (moves ++ later)).formatOf? device = some kind) ∧
    ((books moves).formatted.Pairwise fun a b => a.1.same b.1 = false) ∧
    (∀ made ∈ (books moves).formatted, start.formatOf? made.1 = none) ∧
    ∀ number call, (after moves).calls[number]? = some call → "ro" ∈ call.order.options →
      (books (moves ++ [.goOn number])).formatted = (books moves).formatted := by
  intro start after books
  have fresh : start.formatted = [] := rfl
  have unspoilt : start.Unspoilt (books moves) := by
    refine run_induction (P := fun traffic => start.Unspoilt traffic.world.mounter) ?_
      (fun _ _ => unspoilt_step) moves
    refine ⟨fun _ _ => id, ?_, ?_, ?_⟩ <;> simp only [Traffic.start, World.start, fresh]
    · exact List.Pairwise.nil
    · exact List.forall_mem_nil _
    · exact List.forall_mem_nil _
  refine ⟨fun later device kind found => ?_, unspoilt.once, unspoilt.blank, ?_⟩
  · dsimp only [books, after]
    rw [run_append]
    exact foldl_induction
      (P := fun traffic : Traffic σ Ledger Work Answer =>
        traffic.world.mounter.formatOf? device = some kind)
      found (fun _ _ => formatOf?_step) later
  · intro number call here readOnly
    dsimp only [books, after]
    rw [run_append]
    exact formatted_goOn (tracked_run _ _ _ _ _) here readOnly

end Traffic

/-! ### A device that is formatted -/

/-- A device is formatted, and a read-only format of another is ordered. -/
def sampleMoves : List (Move Work) :=
  [.begin (.formatAndMount ⟨"/dev/vdb"⟩ ⟨"/a"⟩ "ext4" []), .goOn 0,
    .begin (.formatAndMount ⟨"/dev/vdc"⟩ ⟨"/b"⟩ "ext4" ["ro"])]

/-- The books after moves, with nothing in them at the start. -/
def sampleBooks (moves : List (Move Work)) : Ledger :=
  (Traffic.run Work.program Script.cloud bookkeeper moves
    (.start Script.quiet ⟨[], [], []⟩ ⟨[]⟩)).world.mounter

/-- The format stays when another one is asked for, and the read-only work makes none. -/
theorem sampleBooks_kept :
    (sampleBooks sampleMoves).formatOf? ⟨"/dev/vdb"⟩ = some "ext4" ∧
      (sampleBooks (sampleMoves ++ [.begin (.formatAndMount ⟨"/dev/./vdb"⟩ ⟨"/c"⟩ "ext3" []),
        .goOn 2])).formatOf? ⟨"/dev/vdb"⟩ = some "ext4" ∧
      (sampleBooks (sampleMoves ++ [.goOn 1])).formatted = (sampleBooks sampleMoves).formatted := by
  have made : (sampleBooks sampleMoves).formatOf? ⟨"/dev/vdb"⟩ = some "ext4" := by decide +kernel
  obtain ⟨kept, -, -, readOnly⟩ :=
    Traffic.formats_kept Script.cloud Script.quiet [] [] ⟨[]⟩ sampleMoves
  refine ⟨made, kept _ _ _ made, readOnly 1 ⟨.formatAndMount ⟨"/dev/vdc"⟩ ⟨"/b"⟩ "ext4" ["ro"],
    .going (Work.program _)⟩ rfl List.mem_cons_self⟩

end BlockVolume.Node
