import BlockVolume.Proofs.Mount.Table
import BlockVolume.Rehearsal.Script
/-!
Formats in the books of a mounter.

A question leaves all formats as they are, or is one for a format and a mount that finds its device
blank and may write to it. So a format once recorded stays, and each device is formatted once at
most.
-/

namespace BlockVolume.Mount.Ledger

open BlockVolume.Host (FileTree)
open BlockVolume.Rehearsal (answerFromBooks)

variable {ledger start before after : Ledger} {device other target : Path} {kind : String}
  {options : List String} {question : MountAsk}

/-- The devices that were formatted, with their new formats, in order. -/
def formatted (ledger : Ledger) : List (Path × String) :=
  ledger.actions.filterMap fun action =>
    match action with
    | .format device kind => some (device, kind)
    | _ => none

theorem formatOf?_congr (same : device.same other = true) :
    ledger.formatOf? device = ledger.formatOf? other := by
  rw [formatOf?, formatOf?]
  congr 2
  funext entry
  dsimp only
  rw [Path.same_comm, Path.same_congr same, Path.same_comm]

theorem formatOf?_makeFileSystem (ledger : Ledger) (device : Path) (kind : String) (other : Path) :
    (ledger.makeFileSystem device kind).formatOf? other =
      if device.same other then some kind else ledger.formatOf? other := by
  rw [formatOf?, makeFileSystem, record, setFormat]
  dsimp only
  split
  case isTrue own => simp [own]
  case isFalse ne =>
    rw [List.find?_cons, Bool.eq_false_iff.mpr ne, List.find?_filter, formatOf?]
    dsimp only
    congr 2
    funext entry
    by_cases found : entry.1.same other = true
    · -- an entry of the other device is none of this one
      have kept : entry.1.same device = false := by
        rw [Path.same_congr found, Path.same_comm]
        exact Bool.eq_false_iff.mpr ne
      simp [kept]
    · simp [found]

theorem formatted_makeFileSystem (ledger : Ledger) (device : Path) (kind : String) :
    (ledger.makeFileSystem device kind).formatted = ledger.formatted ++ [(device, kind)] := by
  simp [formatted, makeFileSystem, setFormat, record, actions]

theorem formats_mount (ledger : Ledger) (source : Option Path) (target : Path) (kind : String)
    (options : List String) : (ledger.mount source target kind options).2.formats = ledger.formats := by
  cases source <;> rfl

theorem formatOf?_mount (ledger : Ledger) (source : Option Path) (target : Path) (kind : String)
    (options : List String) (device : Path) :
    (ledger.mount source target kind options).2.formatOf? device = ledger.formatOf? device := by
  rw [formatOf?, formats_mount, ← formatOf?]

theorem formatted_mount (ledger : Ledger) (source : Option Path) (target : Path) (kind : String)
    (options : List String) :
    (ledger.mount source target kind options).2.formatted = ledger.formatted := by
  cases source with
  | none => rfl
  | some source => simp [mount, formatted, record, actions]

/-- What a question may do to the formats in the books. -/
inductive Changed (question : MountAsk) (before after : Ledger) : Prop where
  | kept (formats : after.formats = before.formats) (formatted : after.formatted = before.formatted)
  | made {device target : Path} {kind : String} {options : List String}
      (asked : question = .formatAndMount device target kind options)
      (writable : "ro" ∉ options) (blank : before.formatOf? device = none)
      (formats : after.formats = (before.makeFileSystem device kind).formats)
      (formatted : after.formatted = before.formatted ++ [(device, kind)])

theorem formatAndMount_eq (ledger : Ledger) (device target : Path) (kind : String)
    (options : List String) :
    ledger.formatAndMount device target kind options =
      match ledger.formatOf? device with
      | none =>
        if options.contains "ro" then (.error (.unformattedReadOnly device), ledger)
        else (ledger.makeFileSystem device kind).mount (some device) target kind options
      | some existing =>
        if existing = kind then ledger.mount (some device) target kind options
        else (.error (.filesystemMismatch device existing kind), ledger) := by
  have looked : ledger.formatAndMount device target kind options =
      ((match ledger.formatOf? device with
        | none =>
          if options.contains "ro" then throw (.unformattedReadOnly device)
          else do
            primitives.makeFileSystem device kind
            primitives.mount (some device) target kind options
        | some existing =>
          if existing = kind then primitives.mount (some device) target kind options
          else throw (.filesystemMismatch device existing kind) :
          ExceptT MountError (StateM Ledger) Unit).run).run ledger := rfl
  rw [looked]
  split <;> split <;> rfl

/-- A device that is not mounted as asked leaves the books as they were. -/
theorem formatAndMount_error {e : MountError}
    (failed : (ledger.formatAndMount device target kind options).1 = .error e) :
    (ledger.formatAndMount device target kind options).2 = ledger := by
  rw [formatAndMount_eq] at failed ⊢
  cases found : ledger.formatOf? device with
  | none =>
    rw [found] at failed
    dsimp only at failed ⊢
    split at failed
    case isTrue readOnly => rw [if_pos readOnly]
    case isFalse => cases failed
  | some existing =>
    rw [found] at failed
    dsimp only at failed ⊢
    split at failed
    case isTrue => cases failed
    case isFalse other => rw [if_neg other]

/-- A device is mounted under its own name unless a bind is asked for. -/
theorem table_mount (unbound : "bind" ∉ options) :
    (ledger.mount (some device) target kind options).2.table =
      ledger.table ++ [⟨device, target, kind, options, 0, 0⟩] := by
  have own : ledger.sourceDevice device options = device := by
    rw [sourceDevice, if_neg (by simpa using unbound)]
  simp only [mount, own]
  rfl

/-- A device that is mounted as asked has one more entry, at the end of the table, and the format that
was asked for. -/
theorem formatAndMount_ok (unbound : "bind" ∉ options)
    (mounted : ledger.formatAndMount device target kind options = (.ok (), after)) :
    after.table = ledger.table ++ [⟨device, target, kind, options, 0, 0⟩] ∧
      after.formatOf? device = some kind := by
  rw [formatAndMount_eq] at mounted
  cases found : ledger.formatOf? device with
  | none =>
    rw [found] at mounted
    dsimp only at mounted
    split at mounted
    case isTrue => cases mounted
    case isFalse =>
      obtain rfl : _ = after := congrArg Prod.snd mounted
      rw [formatOf?_mount, formatOf?_makeFileSystem]
      exact ⟨table_mount unbound, if_pos (Path.same_refl device)⟩
  | some existing =>
    rw [found] at mounted
    dsimp only at mounted
    split at mounted
    case isTrue same =>
      obtain rfl : _ = after := congrArg Prod.snd mounted
      rw [formatOf?_mount, found, same]
      exact ⟨table_mount unbound, rfl⟩
    case isFalse => cases mounted

theorem changed_formatAndMount (ledger : Ledger) (device target : Path) (kind : String)
    (options : List String) :
    Changed (.formatAndMount device target kind options) ledger
      (ledger.formatAndMount device target kind options).2 := by
  rw [formatAndMount_eq]
  cases found : ledger.formatOf? device with
  | none =>
    dsimp only
    split
    case isTrue => exact .kept rfl rfl
    case isFalse writable =>
      exact .made rfl (by simpa using writable) found (formats_mount _ _ _ _ _)
        ((formatted_mount _ _ _ _ _).trans (formatted_makeFileSystem _ _ _))
  | some existing =>
    dsimp only
    split
    · exact .kept (formats_mount _ _ _ _ _) (formatted_mount _ _ _ _ _)
    · exact .kept rfl rfl

theorem changed_answer (question : MountAsk) (tree : FileTree) (ledger : Ledger) :
    Changed question ledger (answerFromBooks question tree ledger).2 := by
  cases question with
  | formatAndMount device target kind options => exact changed_formatAndMount _ _ _ _ _
  | mount source target kind options =>
    exact .kept (formats_mount _ _ _ _ _) (formatted_mount _ _ _ _ _)
  | unmount target => exact .kept rfl (by simp [answerFromBooks, unmount, formatted, record, actions])
  | _ => exact .kept rfl rfl

/-! ### Many questions -/

/-- A format that is recorded stays. -/
theorem Changed.formatOf? (h : Changed question before after)
    (found : before.formatOf? device = some kind) : after.formatOf? device = some kind := by
  cases h with
  | kept formats => rwa [Ledger.formatOf?, formats]
  | @made made _ _ _ _ _ blank formats =>
    rw [Ledger.formatOf?, formats]
    refine (formatOf?_makeFileSystem ..).trans ?_
    split
    case isTrue own =>
      rw [formatOf?_congr own, found] at blank
      cases blank
    case isFalse => exact found

/-- One device at most was formatted, the one of `made`: it was blank and has its new format, and all
others are as they were. -/
structure FormattedOnce (before : Ledger) (made : Option (Path × String)) (after : Ledger) :
    Prop where
  logged : after.formatted = before.formatted ++ made.toList
  blank : ∀ m ∈ made, before.formatOf? m.1 = none ∧ after.formatOf? m.1 = some m.2
  others : ∀ device, (∀ m ∈ made, m.1.same device = false) →
    after.formatOf? device = before.formatOf? device

theorem Changed.formattedOnce (h : Changed question before after) :
    ∃ made, before.FormattedOnce made after := by
  cases h with
  | kept formats formatted =>
    have same (device : Path) : after.formatOf? device = before.formatOf? device := by
      rw [Ledger.formatOf?, Ledger.formatOf?, formats]
    exact ⟨none, by simpa using formatted, by simp, fun device _ => same device⟩
  | @made device _ kind _ _ _ blank formats formatted =>
    have now (other : Path) : after.formatOf? other =
        if device.same other then some kind else before.formatOf? other := by
      rw [Ledger.formatOf?, formats]
      exact formatOf?_makeFileSystem ..
    refine ⟨some (device, kind), formatted, fun m hm => ?_, fun other ne => ?_⟩
    · obtain rfl := Option.mem_some_iff.mp hm
      exact ⟨blank, by simp [now]⟩
    · rw [now, ne _ rfl]
      rfl

/-- What leaves the formats alone does not undo that. -/
theorem FormattedOnce.kept {made : Option (Path × String)} {later : Ledger}
    (h : before.FormattedOnce made after) (formats : later.formats = after.formats)
    (formatted : later.formatted = after.formatted) : before.FormattedOnce made later := by
  have same (device : Path) : later.formatOf? device = after.formatOf? device := by
    rw [Ledger.formatOf?, Ledger.formatOf?, formats]
  refine ⟨formatted.trans h.logged, fun m hm => ?_, fun device ne => ?_⟩
  · rw [same]
    exact h.blank m hm
  · rw [same]
    exact h.others device ne

/-- Since some time, no format was lost, and devices were formatted that were blank then, each of them
once. -/
structure Unspoilt (start ledger : Ledger) : Prop where
  kept : ∀ device kind, start.formatOf? device = some kind → ledger.formatOf? device = some kind
  once : ledger.formatted.Pairwise fun a b => a.1.same b.1 = false
  recorded : ∀ made ∈ ledger.formatted, ledger.formatOf? made.1 = some made.2
  blank : ∀ made ∈ ledger.formatted, start.formatOf? made.1 = none

theorem Unspoilt.changed (h : Unspoilt start before) (changed : Changed question before after) :
    Unspoilt start after := by
  have kept (device : Path) (kind : String) (found : start.formatOf? device = some kind) :
      after.formatOf? device = some kind := changed.formatOf? (h.kept device kind found)
  have recorded (made : Path × String) (hm : made ∈ before.formatted) :
      after.formatOf? made.1 = some made.2 := changed.formatOf? (h.recorded made hm)
  cases changed with
  | kept formats formatted =>
    exact ⟨kept, formatted ▸ h.once, formatted ▸ recorded, formatted ▸ h.blank⟩
  | @made device target kind options asked writable blank formats formatted =>
    have new : after.formatOf? device = some kind := by
      rw [Ledger.formatOf?, formats]
      exact (formatOf?_makeFileSystem ..).trans (if_pos (Path.same_refl device))
    have first : start.formatOf? device = none := by
      cases found : start.formatOf? device with
      | none => rfl
      | some kind =>
        rw [h.kept device kind found] at blank
        cases blank
    refine ⟨kept, ?_, ?_, ?_⟩
    · rw [formatted]
      refine List.pairwise_append.mpr ⟨h.once, List.pairwise_singleton _ _, fun a ha b hb => ?_⟩
      rw [List.mem_singleton.mp hb]
      refine Bool.eq_false_iff.mpr fun same => ?_
      rw [← formatOf?_congr same, h.recorded a ha] at blank
      cases blank
    · rw [formatted]
      exact List.forall_mem_append.mpr ⟨recorded, by simpa using new⟩
    · rw [formatted]
      exact List.forall_mem_append.mpr ⟨h.blank, by simpa using first⟩

end BlockVolume.Mount.Ledger
