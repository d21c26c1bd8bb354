import BlockVolume.Proofs.Node.Serialization
import BlockVolume.Proofs.Volume.Grammar
/-!
Volume calls and their options.

A call to stage or to unstage a volume reads its options first, with the volume in the place of any
disk they name. If there is no request in them, the call ends there, with nothing asked but metadata.
-/

namespace BlockVolume.Node

open BlockVolume.Operation (Status statusOfValidation)
open BlockVolume.Program
open BlockVolume.Rehearsal (Script)
open BlockVolume.Volume (Checked Gives Options Reading Request ValidationError diskKey knownKeys)

variable {service : Service} {call : VolumeCall} {options : Options} {volume region : String}
  {es : List (Exchange Ask.Answer)}

/-- The options that a call reads: its own, but for the disk. -/
def VolumeCall.given (call : VolumeCall) : Options := call.options.insert diskKey call.volume

/-- The disk of a request that was read is the volume without the blanks around it. -/
theorem disk_of_reading {request : Request}
    (h : Reading (options.insert diskKey volume) region es (.ok request)) :
    request.disk = Text.trim volume := by
  cases h with
  | read checked _ _ _ _ =>
    cases checked with
    | valid gives _ _ =>
      obtain ⟨-, raw, set, trimmed⟩ := gives
      rw [Volume.lookup_insert_self] at set
      obtain rfl := Option.some.inj set
      exact trimmed.symm

/-- Reading a request asks for metadata and nothing else. -/
theorem metadata_of_reading {result : Except ValidationError Request}
    (h : Reading options region es result) :
    ∀ e ∈ es, ∃ resource, e.question = .cloud (.metadata resource) :=
  Volume.only_parse options region (Volume.history_parse_iff.mpr h)

theorem history_read_iff {read : Except Status Request} :
    History (service.parse call.volume call.options).run es read ↔
      ∃ result, Reading call.given service.defaultRegion es result ∧
        read = result.mapError statusOfValidation := by
  refine history_bind.trans ?_
  constructor
  · rintro ⟨before, result, after, rfl, hp, hm⟩
    obtain ⟨rfl, rfl⟩ := history_pure.mp hm
    rw [List.append_nil]
    exact ⟨result, Volume.history_parse_iff.mp hp, rfl⟩
  · rintro ⟨result, reading, rfl⟩
    exact ⟨es, result, [], by simp, Volume.history_parse_iff.mpr reading, history_pure.mpr ⟨rfl, rfl⟩⟩

/-- A call ends where it reads no request, or reads one and carries it out. -/
theorem history_program_iff {answer : Answer} :
    History (service.program call) es answer ↔
      (∃ e, Reading call.given service.defaultRegion es (.error e) ∧
        answer = .error (statusOfValidation e)) ∨
      ∃ before request after, es = before ++ after ∧
        Reading call.given service.defaultRegion before (.ok request) ∧
          History (service.carryOut call (.ok request)) after answer := by
  rw [Service.program_eq, history_bind]
  constructor
  · rintro ⟨before, read, after, rfl, hr, hc⟩
    obtain ⟨result, reading, rfl⟩ := history_read_iff.mp hr
    cases result with
    | ok request => exact .inr ⟨before, request, after, rfl, reading, hc⟩
    | error e =>
      obtain ⟨rfl, rfl⟩ := history_pure.mp hc
      exact .inl ⟨e, by simpa using reading, rfl⟩
  · rintro (⟨e, reading, rfl⟩ | ⟨before, request, after, rfl, reading, hc⟩)
    · exact ⟨es, _, [], by simp, history_read_iff.mpr ⟨_, reading, rfl⟩, history_pure.mpr ⟨rfl, rfl⟩⟩
    · exact ⟨before, _, after, rfl, history_read_iff.mpr ⟨_, reading, rfl⟩, hc⟩

/-- Calls whose options agree on the known keys but that of the disk are the same programs. -/
theorem program_congr
    (same : ∀ key ∈ knownKeys, key ≠ diskKey → options.lookup key = call.options.lookup key) :
    service.program { call with options := options } = service.program call := by
  have known : ∀ key ∈ knownKeys, (options.insert diskKey call.volume).lookup key =
      (call.options.insert diskKey call.volume).lookup key := by
    intro key hk
    by_cases own : key = diskKey
    · rw [own, Volume.lookup_insert_self, Volume.lookup_insert_self]
    · rw [Volume.lookup_insert_of_ne own, Volume.lookup_insert_of_ne own, same key hk own]
  have read : service.parse call.volume options = service.parse call.volume call.options :=
    congrArg (ExceptT.adapt statusOfValidation) (Volume.parse_congr known service.defaultRegion)
  rw [Service.program_eq, Service.program_eq, read]
  rfl

/-- Options are read by the rules: the disk, the file system and the category are checked before any
look-up, and node, zone and region are looked up in turn where the options lack them. What is read
depends on the known keys alone. A call that stages or unstages a volume reads the volume, without the
blanks around it, in the place of any disk among its options. If it reads no request it is an invalid
argument, with the error in words, and has asked for nothing but metadata. -/
theorem options_read_by_rules :
    (∀ (options : Options) (defaultRegion : String) (es : List (Exchange Ask.Answer))
      (result : Except ValidationError Request),
      History (Request.parse options defaultRegion).run es result ↔
        Reading options defaultRegion es result) ∧
    (∀ options other : Options, (∀ key ∈ knownKeys, options.lookup key = other.lookup key) →
      Request.parse options = Request.parse other) ∧
    ∀ (service : Service) (call : VolumeCall),
      (∀ options : Options,
        (∀ key ∈ knownKeys, key ≠ diskKey → options.lookup key = call.options.lookup key) →
          service.program { call with options := options } = service.program call) ∧
      ∀ (es : List (Exchange Ask.Answer)) (answer : Answer),
        History (service.program call) es answer ↔
          (∃ e, Reading call.given service.defaultRegion es (.error e) ∧
            (∀ asked ∈ es, ∃ resource, asked.question = .cloud (.metadata resource)) ∧
              answer = .error ⟨.invalidArgument, e.message⟩) ∨
          ∃ before request after, es = before ++ after ∧
            Reading call.given service.defaultRegion before (.ok request) ∧
              request.disk = Text.trim call.volume ∧
                History (service.carryOut call (.ok request)) after answer := by
  refine ⟨fun _ _ _ _ => Volume.history_parse_iff, fun options other same => ?_,
    fun service call => ⟨fun options => program_congr, fun es answer => ?_⟩⟩
  · exact funext fun defaultRegion => Volume.parse_congr same defaultRegion
  · rw [history_program_iff]
    constructor
    · rintro (⟨e, reading, rfl⟩ | ⟨before, request, after, rfl, reading, hc⟩)
      · exact .inl ⟨e, reading, metadata_of_reading reading, rfl⟩
      · exact .inr ⟨before, request, after, rfl, reading, disk_of_reading reading, hc⟩
    · rintro (⟨e, reading, -, rfl⟩ | ⟨before, request, after, rfl, reading, -, hc⟩)
      · exact .inl ⟨e, reading, rfl⟩
      · exact .inr ⟨before, request, after, rfl, reading, hc⟩

/-- The disk is not always the volume itself: what is read for the volume `" d-1"` is `"d-1"`. -/
theorem padded_volume_trimmed :
    let call := sampleStaging " d-1"
    let reading := (sampleService.parse call.volume call.options).run
    let read := (reading.run (World.reply Script.cloud refusing) (.start Script.quiet () ⟨[]⟩)).1
    read.toOption.map (·.disk) = some "d-1" ∧ "d-1" ≠ call.volume := by
  decide +kernel

end BlockVolume.Node
