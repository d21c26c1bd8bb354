import BlockVolume.Proofs.Mount.Commands
import BlockVolume.Proofs.Mount.ProbeOutput
import BlockVolume.Proofs.Text.Utf8
/-!
A file system is made on blank devices only.

Mounting with a format asks a probe first, and what the probe finds decides which commands follow:
none where the device is not what is asked for, the mounts where it is, and the mounts after a new
file system where it is blank and may be written to. The commands that follow are run in turn, so
each of them is run only if all before it ended well.
-/

namespace BlockVolume.Mount

open BlockVolume.Program
open BlockVolume.Text

variable {system : SystemMounter} {source : Option Path} {device target : Path} {kind : String}
  {options : List String} {probe : ToolRun} {log rest : List (Exchange ToolAsk.Answer)}
  {result : Except MountError Unit}

/-! ### The commands -/

/-- The command that looks what is on a device. -/
def blkid (device : Path) : Command :=
  ⟨"blkid", ["-p", "-s", "TYPE", "-s", "PTTYPE", "-o", "export", device.text]⟩

/-- The command that makes a file system. Two kinds of them are made without asking back, and with
no blocks set aside. -/
def mkfs (device : Path) (kind : String) : Command :=
  ⟨"mkfs." ++ kind,
    if kind = "ext3" ∨ kind = "ext4" then ["-F", "-m0", device.text] else [device.text]⟩

/-- The command runs the mount program for a device and a target, which it names last. -/
structure MountsDevice (system : SystemMounter) (device target : Path) (command : Command) :
    Prop where
  program : command.program = executable system.mountProgram
  last : [device.text, target.text] <:+ command.arguments

/-- No mount program is taken for one that makes a file system. -/
theorem program_mkfs_ne (program : Path) : (mkfs device kind).program ≠ executable program := by
  intro same
  have first : (executable program).toList.head? = some 'm' := by
    rw [← same]
    simp [mkfs]
  rw [executable] at first
  split at first
  case isTrue rooted => simp [Path.isAbsolute, first] at rooted
  case isFalse => simp at first

/-! ### The probe -/

/-- The lines that a tool wrote. -/
def ToolRun.lines (ended : ToolRun) : List (List Char) :=
  Text.lines (Utf8.decodeLossy ended.output)

/-- What a probe finds on its device. -/
inductive Finds (probe : ToolRun) : Option String → Prop where
  | nothing (ended : probe.ending = .exited 2) : Finds probe none
  | told {found : Option String} (ended : probe.ending = .exited 0)
      (told : TellsFormat probe.lines found) : Finds probe found

/-- A probe finds something out unless it failed. -/
theorem exists_finds :
    (∃ found, Finds probe found) ↔ probe.ending = .exited 0 ∨ probe.ending = .exited 2 := by
  constructor
  · rintro ⟨_, ended | ⟨ended, -⟩⟩
    · exact Or.inr ended
    · exact Or.inl ended
  · rintro (ended | ended)
    · exact ⟨_, .told ended (parseProbe_eq_iff.mp rfl)⟩
    · exact ⟨none, .nothing ended⟩

/-- A probe finds one thing. -/
theorem Finds.unique {found other : Option String} (h : Finds probe found)
    (h' : Finds probe other) : found = other := by
  cases h with
  | nothing ended =>
    cases h' with
    | nothing => rfl
    | told ended' => simp [ended] at ended'
  | told ended told =>
    cases h' with
    | nothing ended' => simp [ended] at ended'
    | told _ told' => exact (parseProbe_eq_iff.mpr told).symm.trans (parseProbe_eq_iff.mpr told')

/-- A probe shows that a device is blank if it ends with the code for that, or if it ends well and
wrote no line that gives a file system or partitions. -/
def ShowsBlank (probe : ToolRun) : Prop :=
  probe.ending = .exited 2 ∨
    probe.ending = .exited 0 ∧ Leaves probe.lines "TYPE" ∧ Leaves probe.lines "PTTYPE"

theorem finds_none : Finds probe none ↔ ShowsBlank probe := by
  constructor
  · intro finds
    cases finds with
    | nothing ended => exact Or.inl ended
    | told ended told =>
      cases told with
      | blank untyped neither => exact Or.inr ⟨ended, untyped, neither⟩
  · rintro (ended | ⟨ended, untyped, neither⟩)
    · exact .nothing ended
    · exact .told ended (.blank untyped neither)

/-- The probe is run once. What it finds is the format of the device, and its failure an error. -/
theorem history_format? {looked : Except MountError (Option String)} :
    History (SystemMounter.format? device).run log looked →
      ∃ probe, log = [ranTo (blkid device) probe] ∧
        ((∃ found, Finds probe found ∧ looked = .ok found) ∨
          (∀ found, ¬Finds probe found) ∧
            ∃ cause, looked = .error (.probeFailed device cause)) := by
  intro h
  simp only [SystemMounter.format?, history_step_lift_bind, ToolAsk.ask, history_query] at h
  obtain ⟨_, probe, _, rfl, rfl, h⟩ := h
  split at h
  case h_1 ended =>
    obtain ⟨rfl, rfl⟩ := history_step_pure.mp h
    exact ⟨probe, rfl, Or.inl ⟨_, .told ended (parseProbe_eq_iff.mp rfl), rfl⟩⟩
  case h_2 cause ended =>
    obtain ⟨rfl, rfl⟩ := history_step_throw.mp h
    refine ⟨probe, rfl, Or.inr ⟨fun found finds => ?_, cause, rfl⟩⟩
    rcases exists_finds.mp ⟨found, finds⟩ with good | nothing
    · simp [ended] at good
    · simp [ended] at nothing
  case h_3 bad _ =>
    split at h
    case isTrue ended =>
      obtain ⟨rfl, rfl⟩ := history_step_pure.mp h
      exact ⟨probe, rfl, Or.inl ⟨none, .nothing ended, rfl⟩⟩
    case isFalse other =>
      obtain ⟨rfl, rfl⟩ := history_step_throw.mp h
      refine ⟨probe, rfl, Or.inr ⟨fun found finds => ?_, _, rfl⟩⟩
      rcases exists_finds.mp ⟨found, finds⟩ with good | nothing
      · exact bad good
      · exact other nothing

/-! ### The commands that follow -/

/-- The commands of a mount: a bind mount is made first and then remounted. -/
def SystemMounter.mountCommands (system : SystemMounter) (source : Option Path) (target : Path)
    (kind : String) (options : List String) : List ToldCommand :=
  let bind := BindOptions.ofList options
  (if bind.isBind then [bind.first, bind.remount] else [options]).map fun options =>
    (⟨executable system.mountProgram, mountArguments source target kind options⟩, .other)

theorem history_mount : History (system.mount source target kind options).run log result ↔
    RunInTurn (system.mountCommands source target kind options) log result := by
  rw [SystemMounter.mount, SystemMounter.mountCommands]
  split
  · exact history_runTool_bind fun _ _ => history_runTool
  · exact history_runTool

theorem mountsDevice_mountCommands :
    ∀ told ∈ system.mountCommands (some device) target kind options,
      MountsDevice system device target told.1 := by
  intro told mem
  rw [SystemMounter.mountCommands] at mem
  obtain ⟨options, -, rfl⟩ := List.mem_map.mp mem
  refine ⟨rfl, ?_⟩
  dsimp only
  rw [mountArguments, List.append_assoc]
  exact List.suffix_append _ _

theorem mountCommands_ne_nil : system.mountCommands source target kind options ≠ [] := by
  rw [SystemMounter.mountCommands]
  split <;> simp

/-- Where mounts are due at last, a good end is that of a mount. -/
theorem ends_mounted (commands : List ToldCommand) (h : RunInTurn
    (commands ++ system.mountCommands (some device) target kind options) log (.ok ())) :
    ∃ before command ended, log = before ++ [ranTo command ended] ∧
      MountsDevice system device target command := by
  obtain ⟨before, ended, ran⟩ :=
    h.last rfl (List.append_ne_nil_of_right_ne_nil _ mountCommands_ne_nil)
  rw [List.getLast_append_of_ne_nil _ mountCommands_ne_nil] at ran
  exact ⟨before, _, ended, ran, mountsDevice_mountCommands _ (List.getLast_mem _)⟩

/-- What follows a probe: an error, or commands that are run in turn. -/
inductive Follows (system : SystemMounter) (device target : Path) (kind : String)
    (options : List String) (probe : ToolRun) :
    List (Exchange ToolAsk.Answer) → Except MountError Unit → Prop where
  | unknown (cause : Host.Failure) (failed : ∀ found, ¬Finds probe found) :
      Follows system device target kind options probe [] (.error (.probeFailed device cause))
  | readOnly (blank : Finds probe none) (only : "ro" ∈ options) :
      Follows system device target kind options probe [] (.error (.unformattedReadOnly device))
  | mismatch {found : String} (finds : Finds probe (some found)) (other : found ≠ kind) :
      Follows system device target kind options probe []
        (.error (.filesystemMismatch device found kind))
  | format {rest : List (Exchange ToolAsk.Answer)} {result : Except MountError Unit}
      (blank : Finds probe none) (writable : "ro" ∉ options)
      (run : RunInTurn ((mkfs device kind, .formatFailed device) ::
        system.mountCommands (some device) target kind options) rest result) :
      Follows system device target kind options probe rest result
  | mount {rest : List (Exchange ToolAsk.Answer)} {result : Except MountError Unit}
      (finds : Finds probe (some kind))
      (run : RunInTurn (system.mountCommands (some device) target kind options) rest result) :
      Follows system device target kind options probe rest result

theorem history_formatAndMount
    (h : History (system.primitives.formatAndMount device target kind options).run log result) :
    ∃ probe rest, log = ranTo (blkid device) probe :: rest ∧
      Follows system device target kind options probe rest result := by
  rw [Primitives.formatAndMount, history_step_bind] at h
  obtain ⟨e, looked, rfl⟩ | ⟨_, found, rest, rfl, looked, h⟩ := h
  · obtain ⟨probe, rfl, ⟨_, _, ok⟩ | ⟨failed, cause, error⟩⟩ := history_format? looked
    · cases ok
    · cases error
      exact ⟨probe, [], rfl, .unknown cause failed⟩
  obtain ⟨probe, rfl, ⟨_, finds, ok⟩ | ⟨_, _, error⟩⟩ := history_format? looked
  case inr => cases error
  cases ok
  refine ⟨probe, rest, rfl, ?_⟩
  cases found with
  | none =>
    dsimp only at h
    split at h
    case isTrue only =>
      obtain ⟨rfl, rfl⟩ := history_step_throw.mp h
      exact .readOnly finds (by simpa using only)
    case isFalse writable =>
      exact .format finds (by simpa using writable)
        ((history_runTool_bind fun _ _ => history_mount).mp h)
  | some found =>
    dsimp only at h
    split at h
    case isTrue same => exact .mount (same ▸ finds) (history_mount.mp h)
    case isFalse other =>
      obtain ⟨rfl, rfl⟩ := history_step_throw.mp h
      exact .mismatch finds other

/-! ### When a file system is made -/

section Follows

variable (h : Follows system device target kind options probe rest result)
include h

theorem Follows.commands : ∀ e ∈ rest, ∃ command ended, e = ranTo command ended ∧
    (command = mkfs device kind ∨ MountsDevice system device target command) := by
  cases h with
  | unknown | readOnly | mismatch => simp
  | format _ _ run =>
    intro e he
    obtain ⟨told, mem, ended, ran⟩ := run.mem e he
    refine ⟨told.1, ended, ran, ?_⟩
    rcases List.mem_cons.mp mem with rfl | mem
    · exact Or.inl rfl
    · exact Or.inr (mountsDevice_mountCommands told mem)
  | mount _ run =>
    intro e he
    obtain ⟨told, mem, ended, ran⟩ := run.mem e he
    exact ⟨told.1, ended, ran, Or.inr (mountsDevice_mountCommands told mem)⟩

theorem Follows.formats :
    (∃ made, ranTo (mkfs device kind) made ∈ rest) ↔ "ro" ∉ options ∧ ShowsBlank probe := by
  rw [← finds_none]
  cases h with
  | unknown _ failed => simp [failed none]
  | readOnly _ only => simp [only]
  | mismatch finds =>
    have full : ¬Finds probe none := fun blank => nomatch blank.unique finds
    simp [full]
  | format blank writable run =>
    obtain ⟨made, _, rfl⟩ := run.first
    exact iff_of_true ⟨made, List.mem_cons_self⟩ ⟨writable, blank⟩
  | mount finds run =>
    refine iff_of_false ?_ fun due => nomatch due.2.unique finds
    rintro ⟨made, mem⟩
    obtain ⟨told, due, ended, ran⟩ := run.mem _ mem
    have same : mkfs device kind = told.1 := (ranTo_inj.mp ran).1
    exact program_mkfs_ne _ (same ▸ (mountsDevice_mountCommands told due).program)

theorem Follows.mounts {before after : List (Exchange ToolAsk.Answer)} {command : Command}
    {ended : ToolRun} (ran : rest = before ++ ranTo command ended :: after)
    (mounts : command.program = executable system.mountProgram) :
    probe.ending = .exited 0 ∧ TellsFormat probe.lines (some kind) ∨
      ∃ made, ranTo (mkfs device kind) made ∈ before ∧ made.ending = .exited 0 := by
  cases h with
  | unknown | readOnly | mismatch => simp at ran
  | mount finds =>
    cases finds with
    | told good told => exact Or.inl ⟨good, told⟩
  | format _ _ run =>
    obtain ⟨made, later, rfl⟩ := run.first
    cases before with
    | nil =>
      -- what is run first makes a file system and mounts nothing
      cases (List.cons.inj ran).1
      exact absurd mounts (program_mkfs_ne _)
    | cons _ before =>
      obtain ⟨rfl, -⟩ := List.cons.inj ran
      refine Or.inr ⟨made, List.mem_cons_self, ?_⟩
      by_contra bad
      -- nothing would have followed it
      obtain ⟨none, -⟩ := run.stops (List.nil_append _).symm bad
      simp [none] at ran

theorem Follows.failed {before after : List (Exchange ToolAsk.Answer)} {command : Command}
    {ended : ToolRun} (ran : rest = before ++ ranTo command ended :: after)
    (bad : ended.ending ≠ .exited 0) : after = [] ∧ ∃ e, result = .error e := by
  cases h with
  | unknown | readOnly | mismatch => simp at ran
  | format _ _ run => exact run.stops ran bad
  | mount _ run => exact run.stops ran bad

theorem Follows.done : result = .ok () ↔
    rest ≠ [] ∧ ∀ command ended, ranTo command ended ∈ rest → ended.ending = .exited 0 := by
  cases h with
  | unknown | readOnly | mismatch => simp
  | format _ _ run =>
    rw [run.eq_ok_iff, and_iff_right (run.ne_nil (List.cons_ne_nil _ _))]
  | mount _ run => rw [run.eq_ok_iff, and_iff_right (run.ne_nil mountCommands_ne_nil)]

theorem Follows.mounted (ok : result = .ok ()) : ∃ before command ended,
    rest = before ++ [ranTo command ended] ∧ MountsDevice system device target command := by
  subst ok
  cases h with
  | format _ _ run => exact ends_mounted [_] run
  | mount _ run => exact ends_mounted [] run

theorem Follows.probeFailed (failed : ∀ found, ¬Finds probe found) :
    rest = [] ∧ ∃ cause, result = .error (.probeFailed device cause) := by
  cases h with
  | unknown cause => exact ⟨rfl, cause, rfl⟩
  | readOnly finds | mismatch finds | format finds | mount finds =>
    exact absurd finds (failed _)

theorem Follows.mismatched {found : String} (finds : Finds probe (some found))
    (other : found ≠ kind) :
    rest = [] ∧ result = .error (.filesystemMismatch device found kind) := by
  cases h with
  | unknown _ failed => exact absurd finds (failed _)
  | readOnly blank | format blank => exact nomatch blank.unique finds
  | mismatch finds' =>
    obtain rfl := Option.some.inj (finds.unique finds')
    exact ⟨rfl, rfl⟩
  | mount finds' => exact absurd (Option.some.inj (finds.unique finds')) other

theorem Follows.refused (blank : Finds probe none) (only : "ro" ∈ options) :
    rest = [] ∧ result = .error (.unformattedReadOnly device) := by
  cases h with
  | unknown _ failed => exact absurd blank (failed _)
  | readOnly => exact ⟨rfl, rfl⟩
  | format _ writable => exact absurd only writable
  | mismatch finds | mount finds => exact nomatch blank.unique finds

end Follows

/-- What mounting with a format does after its probe. -/
structure FormatsBlankOnly (system : SystemMounter) (device target : Path) (kind : String)
    (options : List String) (probe : ToolRun) (rest : List (Exchange ToolAsk.Answer))
    (result : Except MountError Unit) : Prop where
  /-- It reads the lines of the text that the probe wrote. -/
  lines : Lines (Utf8.decodeLossy probe.output) probe.lines ∧
    ∀ text, probe.output = Utf8.encode text → Utf8.decodeLossy probe.output = text
  /-- It starts the mount program by its path, a relative one from the working directory. -/
  starts : executable system.mountProgram =
    if system.mountProgram.text.toList.head? = some '/' then system.mountProgram.text
    else "./" ++ system.mountProgram.text
  /-- It runs nothing but the command that makes the file system and the mount program, which it has
  mount the device at the target. -/
  commands : ∀ e ∈ rest, ∃ command ended, e = ranTo command ended ∧
    (command = mkfs device kind ∨ MountsDevice system device target command)
  /-- It makes a file system exactly on a blank device that may be written to. -/
  formats : (∃ made, ranTo (mkfs device kind) made ∈ rest) ↔ "ro" ∉ options ∧ ShowsBlank probe
  /-- It mounts only what is as asked for, or a file system that was made before. -/
  mounts : ∀ before command ended after, rest = before ++ ranTo command ended :: after →
    command.program = executable system.mountProgram →
      probe.ending = .exited 0 ∧ TellsFormat probe.lines (some kind) ∨
        ∃ made, ranTo (mkfs device kind) made ∈ before ∧ made.ending = .exited 0
  /-- It ends with an error at the first command that does not end well. -/
  failed : ∀ before command ended after, rest = before ++ ranTo command ended :: after →
    ended.ending ≠ .exited 0 → after = [] ∧ ∃ e, result = .error e
  /-- It ends well exactly if it came to run commands, and all of them ended well. -/
  done : result = .ok () ↔
    rest ≠ [] ∧ ∀ command ended, ranTo command ended ∈ rest → ended.ending = .exited 0
  /-- It has mounted the device then. -/
  mounted : result = .ok () → ∃ before command ended, rest = before ++ [ranTo command ended] ∧
    MountsDevice system device target command
  /-- It runs nothing after a probe that failed. -/
  unknown : probe.ending ≠ .exited 0 → probe.ending ≠ .exited 2 →
    rest = [] ∧ ∃ cause, result = .error (.probeFailed device cause)
  /-- It runs nothing where something else is on the device. -/
  mismatch : ∀ found, probe.ending = .exited 0 → TellsFormat probe.lines (some found) →
    found ≠ kind → rest = [] ∧ result = .error (.filesystemMismatch device found kind)
  /-- It runs nothing where a blank device may not be written to. -/
  readOnly : ShowsBlank probe → "ro" ∈ options →
    rest = [] ∧ result = .error (.unformattedReadOnly device)

/-- Whatever the tools come to, mounting with a format runs a probe first, makes a file system on
blank devices only, and runs nothing after the first thing that is not as it should be. -/
theorem formatAndMount_formatsBlankOnly {σ : Type} (system : SystemMounter) (device target : Path)
    (kind : String) (options : List String)
    (answer : (question : ToolAsk) → σ → question.Answer × σ) (s : σ) :
    let program := (system.primitives.formatAndMount device target kind options).run
    ∃ probe rest, (program.moments answer s).map Prod.snd = ranTo (blkid device) probe :: rest ∧
      FormatsBlankOnly system device target kind options probe rest (program.run answer s).1 := by
  intro program
  obtain ⟨probe, rest, log, follows⟩ :=
    history_formatAndMount (course_self answer program s).history
  refine ⟨probe, rest, log, ?_⟩
  constructor
  case lines =>
    refine ⟨lines_eq_iff.mp rfl, fun text written => ?_⟩
    rw [written, Utf8.decodeLossy_encode]
  case starts => simp only [executable, Path.isAbsolute, beq_iff_eq]
  case commands => exact follows.commands
  case formats => exact follows.formats
  case mounts => exact fun _ _ _ _ ran mounts => follows.mounts ran mounts
  case failed => exact fun _ _ _ _ ran bad => follows.failed ran bad
  case done => exact follows.done
  case mounted => exact follows.mounted
  case unknown =>
    intro bad other
    refine follows.probeFailed fun found finds => ?_
    rcases exists_finds.mp ⟨found, finds⟩ with good | nothing
    · exact bad good
    · exact other nothing
  case mismatch => exact fun _ good told other => follows.mismatched (.told good told) other
  case readOnly => exact fun blank only => follows.refused (finds_none.mpr blank) only

end BlockVolume.Mount
