import BlockVolume.Mount.Probe
import BlockVolume.Proofs.Text.Layout
/-!
What the output of a probe tells of a device.

A line gives a key a value if it is, but for blanks around it, the key, an equals sign and at least
one character. The last line that gives a file system counts; where no line does, one that gives a
partition table keeps the device from being blank. `TellsFormat` says so of the lines, and is what
the reader finds.
-/

namespace BlockVolume.Mount

open BlockVolume.Text

variable {ls : List (List Char)} {line : List Char} {key value : String} {found : Option String}

/-- The line, trimmed, is the key, an equals sign and the value, which is not empty. -/
def Assigns (line : List Char) (key value : String) : Prop :=
  value ≠ "" ∧ Trimmed line (key ++ "=" ++ value).toList

/-- No line gives the key a value. -/
def Leaves (ls : List (List Char)) (key : String) : Prop :=
  ∀ line ∈ ls, ∀ value, ¬Assigns line key value

/-- What lines tell of a device: the last file system that is given, or that there are partitions,
or that there is neither. -/
inductive TellsFormat (ls : List (List Char)) : Option String → Prop where
  | fileSystem {before after : List (List Char)} {line : List Char} {kind : String}
      (split : ls = before ++ line :: after) (given : Assigns line "TYPE" kind)
      (last : Leaves after "TYPE") : TellsFormat ls (some kind)
  | partitions {line : List Char} {kind : String} (untyped : Leaves ls "TYPE") (mem : line ∈ ls)
      (given : Assigns line "PTTYPE" kind) :
      TellsFormat ls (some "unknown data, probably partitions")
  | blank (untyped : Leaves ls "TYPE") (neither : Leaves ls "PTTYPE") : TellsFormat ls none

/-! ### One line -/

/-- The value that a line gives a key. -/
def lineValue? (key : String) (line : List Char) : Option String :=
  match splitFirst '=' (trimChars line) with
  | some (name, value) =>
    if name = key.toList && !value.isEmpty then some (String.ofList value) else none
  | none => none

theorem lastValue?_eq (key : String) (ls : List (List Char)) :
    lastValue? key ls = ls.reverse.findSome? (lineValue? key) :=
  List.getLast?_filterMap

theorem lineValue?_eq_some (plain : '=' ∉ key.toList) :
    lineValue? key line = some value ↔ Assigns line key value := by
  constructor
  · intro given
    rw [lineValue?] at given
    split at given
    case h_2 => cases given
    case h_1 name text cut =>
      split at given
      case isFalse => cases given
      case isTrue named =>
        obtain ⟨rfl, some⟩ : name = key.toList ∧ text ≠ [] := by simpa using named
        obtain rfl := Option.some.inj given
        obtain ⟨-, whole⟩ := splitFirst_eq_some_iff.mp cut
        exact ⟨by simpa using some, trimChars_eq_iff.mp (by simpa using whole)⟩
  · rintro ⟨some, trimmed⟩
    have whole := trimmed.trimChars_eq
    have cut : splitFirst '=' (trimChars line) = .some (key.toList, value.toList) :=
      splitFirst_eq_some_iff.mpr ⟨plain, by simpa using whole⟩
    rw [lineValue?, cut]
    simp [some]

theorem lineValue?_eq_none (plain : '=' ∉ key.toList) :
    lineValue? key line = none ↔ ∀ value, ¬Assigns line key value := by
  rw [Option.eq_none_iff_forall_ne_some]
  simp only [ne_eq, lineValue?_eq_some plain]

/-! ### All lines -/

/-- The last line that gives a key a value gives its last value. -/
theorem lastValue?_eq_some (plain : '=' ∉ key.toList) :
    lastValue? key ls = some value ↔
      ∃ before line after, ls = before ++ line :: after ∧ Assigns line key value ∧
        Leaves after key := by
  rw [lastValue?_eq, List.findSome?_eq_some_iff]
  simp only [lineValue?_eq_some plain, lineValue?_eq_none plain]
  constructor
  · rintro ⟨after, line, before, split, given, last⟩
    refine ⟨before.reverse, line, after.reverse, ?_, given, fun other mem => ?_⟩
    · rw [← List.reverse_reverse ls, split]
      simp
    · exact last other (List.mem_reverse.mp mem)
  · rintro ⟨before, line, after, rfl, given, last⟩
    refine ⟨after.reverse, line, before.reverse, by simp, given, fun other mem => ?_⟩
    exact last other (List.mem_reverse.mp mem)

theorem lastValue?_eq_none (plain : '=' ∉ key.toList) :
    lastValue? key ls = none ↔ Leaves ls key := by
  rw [lastValue?_eq, List.findSome?_eq_none_iff]
  simp only [lineValue?_eq_none plain, List.mem_reverse]
  rfl

/-- A probe finds what the lines of its output tell. -/
theorem parseProbe_eq_iff {output : List Char} :
    parseProbe output = found ↔ TellsFormat (lines output) found := by
  have typed : '=' ∉ "TYPE".toList := by decide
  have parted : '=' ∉ "PTTYPE".toList := by decide
  rw [parseProbe]
  constructor
  · rintro rfl
    cases kind : lastValue? "TYPE" (lines output) with
    | some kind =>
      obtain ⟨before, line, after, split, given, last⟩ := (lastValue?_eq_some typed).mp kind
      exact .fileSystem split given last
    | none =>
      have untyped := (lastValue?_eq_none typed).mp kind
      cases table : lastValue? "PTTYPE" (lines output) with
      | some table =>
        obtain ⟨before, line, after, split, given, -⟩ := (lastValue?_eq_some parted).mp table
        exact .partitions untyped (by simp [split]) given
      | none => exact .blank untyped ((lastValue?_eq_none parted).mp table)
  · intro told
    cases told with
    | fileSystem split given last =>
      rw [(lastValue?_eq_some typed).mpr ⟨_, _, _, split, given, last⟩]
    | partitions untyped mem given =>
      rw [(lastValue?_eq_none typed).mpr untyped]
      cases table : lastValue? "PTTYPE" (lines output) with
      | some table => rfl
      | none => exact absurd given ((lastValue?_eq_none parted).mp table _ mem _)
    | blank untyped neither =>
      rw [(lastValue?_eq_none typed).mpr untyped, (lastValue?_eq_none parted).mpr neither]
      rfl

end BlockVolume.Mount
