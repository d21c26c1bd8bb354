import BlockVolume.Config
import BlockVolume.Proofs.Json.Fields
import BlockVolume.Proofs.Json.Reading
import Mathlib
/-!
The configuration of a document, field by field.

A document is an object whose known fields are given once, each with a value of its type. What is
read from it is the default with the given fields replaced, here and inside the objects that two of
the fields have for values; fields of other names are passed over, with whatever values.
-/

namespace BlockVolume

open BlockVolume.Json (GivenOnce Replaced Typed Value exists_replaced)
open BlockVolume.Operation (RetryPolicy)
open BlockVolume.Text (Bytes Utf8.ofString)

variable {value : Value} {fields : List (String × Value)} {policy : RetryPolicy}
  {shared : GlobalOptions} {config : Config}

/-! ### Integers -/

/-- The value is an integer of 32 bits. -/
def IsUInt32 (value : Value) (n : UInt32) : Prop := value.IsNatural n.toNat

/-- The value is an integer of 64 bits. -/
def IsUInt64 (value : Value) (n : UInt64) : Prop := value.IsNatural n.toNat

theorem asUInt32_eq_ok (value : Value) (n : UInt32) (h : IsUInt32 value n) :
    asUInt32 value = .ok n := by
  rw [asUInt32, h.asNatBelow n.toNat_lt_size]
  exact congrArg Except.ok (UInt32.ofNat_toNat)

theorem asUInt64_eq_ok (value : Value) (n : UInt64) (h : IsUInt64 value n) :
    asUInt64 value = .ok n := by
  rw [asUInt64, h.asNatBelow n.toNat_lt_size]
  exact congrArg Except.ok (UInt64.ofNat_toNat)

theorem asText_eq_ok (value : Value) (text : String) (h : value.Spells text) :
    value.asText = .ok text :=
  Value.asText_eq_ok_iff.mpr h

/-! ### Retry policies -/

/-- The names of the fields of a retry policy. -/
def policyNames : List String := ["maxAttempts", "initialBackoffMs", "maxBackoffMs"]

/-- The fields that a retry policy can be read from. -/
structure PolicyFields (fields : List (String × Value)) : Prop where
  once : GivenOnce policyNames fields
  maxAttempts : Typed fields "maxAttempts" IsUInt32
  initialBackoffMs : Typed fields "initialBackoffMs" IsUInt64
  maxBackoffMs : Typed fields "maxBackoffMs" IsUInt64

/-- The default policy with the given fields replaced. -/
structure PolicyReplaced (fields : List (String × Value)) (policy : RetryPolicy) : Prop where
  maxAttempts :
    Replaced fields "maxAttempts" IsUInt32 RetryPolicy.standard.maxAttempts policy.maxAttempts
  initialBackoffMs : Replaced fields "initialBackoffMs" IsUInt64
    RetryPolicy.standard.initialBackoffMs policy.initialBackoffMs
  maxBackoffMs :
    Replaced fields "maxBackoffMs" IsUInt64 RetryPolicy.standard.maxBackoffMs policy.maxBackoffMs

/-- The value is an object that a retry policy can be read from, and the policy is the default with
what the object gives replaced. -/
def IsPolicy (value : Value) (policy : RetryPolicy) : Prop :=
  ∃ fields, value.HasFields fields ∧ PolicyFields fields ∧ PolicyReplaced fields policy

theorem PolicyFields.exists_replaced (h : PolicyFields fields) :
    ∃ policy, PolicyReplaced fields policy := by
  obtain ⟨once, typed₁, typed₂, typed₃⟩ := h
  obtain ⟨maxAttempts, h₁⟩ := Json.exists_replaced once (by simp [policyNames]) typed₁
    RetryPolicy.standard.maxAttempts
  obtain ⟨initialBackoffMs, h₂⟩ := Json.exists_replaced once (by simp [policyNames]) typed₂
    RetryPolicy.standard.initialBackoffMs
  obtain ⟨maxBackoffMs, h₃⟩ := Json.exists_replaced once (by simp [policyNames]) typed₃
    RetryPolicy.standard.maxBackoffMs
  exact ⟨⟨maxAttempts, initialBackoffMs, maxBackoffMs⟩, h₁, h₂, h₃⟩

theorem parsePolicy_eq_ok (value : Value) (policy : RetryPolicy) (h : IsPolicy value policy) :
    parsePolicy value = .ok policy := by
  obtain ⟨fields, object, ⟨once, -⟩, h₁, h₂, h₃⟩ := h
  obtain ⟨found, hf⟩ := Value.fields_eq_ok_iff.mpr (object.isRecord once)
  have first := Json.Found.optional_of_replaced object hf (by simp [policyNames]) asUInt32_eq_ok h₁
  have second := Json.Found.optional_of_replaced object hf (by simp [policyNames]) asUInt64_eq_ok h₂
  have third := Json.Found.optional_of_replaced object hf (by simp [policyNames]) asUInt64_eq_ok h₃
  rw [policyNames] at hf
  rw [parsePolicy, hf]
  simp only [Bind.bind, Except.bind, first, second, third]
  rfl

/-! ### Shared options -/

/-- The names of the shared options. -/
def sharedNames : List String :=
  ["KubernetesClusterTag", "accessKeyID", "accessKeySecret", "region"]

/-- The fields that shared options can be read from. -/
structure SharedFields (fields : List (String × Value)) : Prop where
  once : GivenOnce sharedNames fields
  clusterTag : Typed fields "KubernetesClusterTag" Value.Spells
  accessKeyId : Typed fields "accessKeyID" Value.Spells
  accessKeySecret : Typed fields "accessKeySecret" Value.Spells
  region : Typed fields "region" Value.Spells

/-- No shared options but the given ones. -/
structure SharedReplaced (fields : List (String × Value)) (shared : GlobalOptions) : Prop where
  clusterTag : Replaced fields "KubernetesClusterTag" Value.Spells
    GlobalOptions.standard.clusterTag shared.clusterTag
  accessKeyId : Replaced fields "accessKeyID" Value.Spells
    GlobalOptions.standard.accessKeyId shared.accessKeyId
  accessKeySecret : Replaced fields "accessKeySecret" Value.Spells
    GlobalOptions.standard.accessKeySecret shared.accessKeySecret
  region : Replaced fields "region" Value.Spells GlobalOptions.standard.region shared.region

/-- The value is an object that shared options can be read from, and `shared` is what it gives. -/
def IsShared (value : Value) (shared : GlobalOptions) : Prop :=
  ∃ fields, value.HasFields fields ∧ SharedFields fields ∧ SharedReplaced fields shared

theorem SharedFields.exists_replaced (h : SharedFields fields) :
    ∃ shared, SharedReplaced fields shared := by
  obtain ⟨once, typed₁, typed₂, typed₃, typed₄⟩ := h
  obtain ⟨clusterTag, h₁⟩ := Json.exists_replaced once (by simp [sharedNames]) typed₁
    GlobalOptions.standard.clusterTag
  obtain ⟨accessKeyId, h₂⟩ := Json.exists_replaced once (by simp [sharedNames]) typed₂
    GlobalOptions.standard.accessKeyId
  obtain ⟨accessKeySecret, h₃⟩ := Json.exists_replaced once (by simp [sharedNames]) typed₃
    GlobalOptions.standard.accessKeySecret
  obtain ⟨region, h₄⟩ := Json.exists_replaced once (by simp [sharedNames]) typed₄
    GlobalOptions.standard.region
  exact ⟨⟨clusterTag, accessKeyId, accessKeySecret, region⟩, h₁, h₂, h₃, h₄⟩

theorem parseShared_eq_ok (value : Value) (shared : GlobalOptions) (h : IsShared value shared) :
    GlobalOptions.parse value = .ok shared := by
  obtain ⟨fields, object, ⟨once, -⟩, h₁, h₂, h₃, h₄⟩ := h
  obtain ⟨found, hf⟩ := Value.fields_eq_ok_iff.mpr (object.isRecord once)
  have first := Json.Found.optional_of_replaced object hf (by simp [sharedNames]) asText_eq_ok h₁
  have second := Json.Found.optional_of_replaced object hf (by simp [sharedNames]) asText_eq_ok h₂
  have third := Json.Found.optional_of_replaced object hf (by simp [sharedNames]) asText_eq_ok h₃
  have fourth := Json.Found.optional_of_replaced object hf (by simp [sharedNames]) asText_eq_ok h₄
  rw [sharedNames] at hf
  rw [GlobalOptions.standard] at first second third fourth
  rw [GlobalOptions.parse, hf]
  simp only [Bind.bind, Except.bind, first, second, third, fourth]
  rfl

/-! ### Configurations -/

/-- The names of the fields of a configuration. -/
def configNames : List String :=
  ["metadataEndpoint", "ecsEndpoint", "defaultRegion", "requestTimeoutSecs", "retry", "Global"]

/-- The fields that a configuration can be read from. -/
structure ConfigFields (fields : List (String × Value)) : Prop where
  once : GivenOnce configNames fields
  metadataEndpoint : Typed fields "metadataEndpoint" Value.Spells
  ecsEndpoint : Typed fields "ecsEndpoint" Value.Spells
  defaultRegion : Typed fields "defaultRegion" Value.Spells
  requestTimeoutSecs : Typed fields "requestTimeoutSecs" IsUInt64
  retry : ∀ value, ("retry", value) ∈ fields →
    ∃ inner, value.HasFields inner ∧ PolicyFields inner
  shared : ∀ value, ("Global", value) ∈ fields →
    ∃ inner, value.HasFields inner ∧ SharedFields inner

/-- The default configuration with the given fields replaced. -/
structure ConfigReplaced (fields : List (String × Value)) (config : Config) : Prop where
  metadataEndpoint : Replaced fields "metadataEndpoint" Value.Spells
    Config.standard.metadataEndpoint config.metadataEndpoint
  ecsEndpoint :
    Replaced fields "ecsEndpoint" Value.Spells Config.standard.ecsEndpoint config.ecsEndpoint
  defaultRegion :
    Replaced fields "defaultRegion" Value.Spells Config.standard.defaultRegion config.defaultRegion
  requestTimeoutSecs : Replaced fields "requestTimeoutSecs" IsUInt64
    Config.standard.requestTimeoutSecs config.requestTimeoutSecs
  retry : Replaced fields "retry" IsPolicy Config.standard.retry config.retry
  shared : Replaced fields "Global" IsShared Config.standard.shared config.shared

/-- An object in a field for a policy tells one. -/
theorem ConfigFields.retry_typed (h : ConfigFields fields) : Typed fields "retry" IsPolicy := by
  intro value given
  obtain ⟨inner, object, typed⟩ := h.retry value given
  obtain ⟨policy, replaced⟩ := typed.exists_replaced
  exact ⟨policy, inner, object, typed, replaced⟩

/-- An object in a field for shared options tells them. -/
theorem ConfigFields.shared_typed (h : ConfigFields fields) : Typed fields "Global" IsShared := by
  intro value given
  obtain ⟨inner, object, typed⟩ := h.shared value given
  obtain ⟨shared, replaced⟩ := typed.exists_replaced
  exact ⟨shared, inner, object, typed, replaced⟩

theorem ConfigFields.exists_replaced (h : ConfigFields fields) :
    ∃ config, ConfigReplaced fields config := by
  obtain ⟨metadataEndpoint, h₁⟩ := Json.exists_replaced h.once (by simp [configNames])
    h.metadataEndpoint Config.standard.metadataEndpoint
  obtain ⟨ecsEndpoint, h₂⟩ := Json.exists_replaced h.once (by simp [configNames])
    h.ecsEndpoint Config.standard.ecsEndpoint
  obtain ⟨defaultRegion, h₃⟩ := Json.exists_replaced h.once (by simp [configNames])
    h.defaultRegion Config.standard.defaultRegion
  obtain ⟨requestTimeoutSecs, h₄⟩ := Json.exists_replaced h.once (by simp [configNames])
    h.requestTimeoutSecs Config.standard.requestTimeoutSecs
  obtain ⟨retry, h₅⟩ := Json.exists_replaced h.once (by simp [configNames])
    h.retry_typed Config.standard.retry
  obtain ⟨shared, h₆⟩ := Json.exists_replaced h.once (by simp [configNames])
    h.shared_typed Config.standard.shared
  exact ⟨⟨metadataEndpoint, ecsEndpoint, defaultRegion, requestTimeoutSecs, retry, shared⟩,
    h₁, h₂, h₃, h₄, h₅, h₆⟩

namespace Config

theorem ofValue_eq_ok (object : value.HasFields fields) (given : ConfigFields fields)
    (h : ConfigReplaced fields config) : ofValue value = .ok config := by
  obtain ⟨found, hf⟩ := Value.fields_eq_ok_iff.mpr (object.isRecord given.once)
  have first := Json.Found.optional_of_replaced object hf (by simp [configNames]) asText_eq_ok
    h.metadataEndpoint
  have second := Json.Found.optional_of_replaced object hf (by simp [configNames]) asText_eq_ok
    h.ecsEndpoint
  have third := Json.Found.optional_of_replaced object hf (by simp [configNames]) asText_eq_ok
    h.defaultRegion
  have fourth := Json.Found.optional_of_replaced object hf (by simp [configNames]) asUInt64_eq_ok
    h.requestTimeoutSecs
  have fifth := Json.Found.optional_of_replaced object hf (by simp [configNames]) parsePolicy_eq_ok
    h.retry
  have sixth := Json.Found.optional_of_replaced object hf (by simp [configNames]) parseShared_eq_ok
    h.shared
  rw [configNames] at hf
  rw [ofValue, hf]
  simp only [Bind.bind, Except.bind, first, second, third, fourth, fifth, sixth]
  rfl

theorem region_eq (config : Config) : config.region =
    if config.shared.region = "" then config.defaultRegion else config.shared.region := by
  simp only [region, String.isEmpty_iff]

/-- A document with known fields of their types is loaded, and the configuration is the default with
the given fields replaced and no other one. -/
theorem load_replaces {read : Path → Option Bytes} {path : Path} {document : Bytes}
    (file : read path = some document) (json : Json.Document value document)
    (object : value.HasFields fields) (given : ConfigFields fields) :
    ∃ config, load read (some path) = .ok config ∧
      (∀ other, ConfigReplaced fields other ↔ other = config) ∧
      config.region =
        if config.shared.region = "" then config.defaultRegion else config.shared.region := by
  obtain ⟨config, replaced⟩ := given.exists_replaced
  have read_eq : Json.read document = .ok value := Json.read_eq_ok_iff.mpr json
  have loaded : load read (some path) = .ok config := by
    rw [load, file]
    simp [parse, read_eq, ofValue_eq_ok object given replaced, Bind.bind, Except.bind]
  refine ⟨config, loaded, ?_, region_eq config⟩
  intro other
  constructor
  · intro again
    have same := (ofValue_eq_ok object given again).symm.trans (ofValue_eq_ok object given replaced)
    exact Except.ok.inj same
  · rintro rfl
    exact replaced

/-- A document with both kinds of blocks, each given in part, after a field of no known name. -/
def blocksDocument : Bytes := Utf8.ofString
  ("\x7b\"x\": [\x7b\"retry\": 1\x7d], \"Global\": \x7b\"region\": \"b\"\x7d, " ++
    "\"retry\": \x7b\"maxAttempts\": 3\x7d\x7d")

/-- The value of its field `Global`. -/
def blocksShared : Value :=
  .object [(Utf8.ofString "region", .string (Utf8.ofString "b"))]

/-- The value of its field `retry`. -/
def blocksRetry : Value :=
  .object [(Utf8.ofString "maxAttempts", .number (Utf8.ofString "3"))]

/-- The value of its field of no known name. -/
def blocksOther : Value :=
  .array [.object [(Utf8.ofString "retry", .number (Utf8.ofString "1"))]]

theorem isPolicy_blocksRetry :
    IsPolicy blocksRetry { RetryPolicy.standard with maxAttempts := 3 } := by
  have only {value : Value}
      (given : ("maxAttempts", value) ∈ [("maxAttempts", Value.number (Utf8.ofString "3"))]) :
      IsUInt32 value 3 := by
    obtain rfl : value = .number (Utf8.ofString "3") := by simpa using given
    cbv
  refine ⟨[("maxAttempts", .number (Utf8.ofString "3"))], ⟨.cons ⟨by cbv, rfl⟩ .nil⟩, ?_, ?_⟩
  · exact ⟨by simp [GivenOnce], fun value given => ⟨3, only given⟩, by simp [Typed],
      by simp [Typed]⟩
  · exact ⟨⟨fun value given => only given, fun missing => absurd List.mem_cons_self (missing _)⟩,
      .of_missing (by simp), .of_missing (by simp)⟩

theorem isShared_blocksShared :
    IsShared blocksShared { GlobalOptions.standard with region := "b" } := by
  have only {value : Value}
      (given : ("region", value) ∈ [("region", Value.string (Utf8.ofString "b"))]) :
      value.Spells "b" := by
    obtain rfl : value = .string (Utf8.ofString "b") := by simpa using given
    exact ⟨_, rfl, by cbv⟩
  refine ⟨[("region", .string (Utf8.ofString "b"))], ⟨.cons ⟨by cbv, rfl⟩ .nil⟩, ?_, ?_⟩
  · exact ⟨by simp [GivenOnce], by simp [Typed], by simp [Typed], by simp [Typed],
      fun value given => ⟨"b", only given⟩⟩
  · exact ⟨.of_missing (by simp), .of_missing (by simp), .of_missing (by simp),
      ⟨fun value given => only given, fun missing => absurd List.mem_cons_self (missing _)⟩⟩

theorem load_replaces_blocks :
    load (fun _ => some blocksDocument) (some ⟨"config.json"⟩) = .ok
      { standard with
        retry := { RetryPolicy.standard with maxAttempts := 3 }
        shared := { GlobalOptions.standard with region := "b" } } := by
  have json : Json.Document (.object [(Utf8.ofString "x", blocksOther),
      (Utf8.ofString "Global", blocksShared), (Utf8.ofString "retry", blocksRetry)])
      blocksDocument := Json.read_eq_ok_iff.mp (by cbv)
  have retry {value : Value} (given : ("retry", value) ∈
      [("x", blocksOther), ("Global", blocksShared), ("retry", blocksRetry)]) :
      value = blocksRetry := by simpa using given
  have shared {value : Value} (given : ("Global", value) ∈
      [("x", blocksOther), ("Global", blocksShared), ("retry", blocksRetry)]) :
      value = blocksShared := by simpa using given
  obtain ⟨inner, object, typed, -⟩ := isPolicy_blocksRetry
  obtain ⟨inner', object', typed', -⟩ := isShared_blocksShared
  obtain ⟨config, loaded, unique, -⟩ := @load_replaces _ _ (fun _ => some blocksDocument)
    ⟨"config.json"⟩ _ rfl json
    ⟨.cons ⟨by cbv, rfl⟩ (.cons ⟨by cbv, rfl⟩ (.cons ⟨by cbv, rfl⟩ .nil))⟩
    { once := by simp [GivenOnce, configNames]
      metadataEndpoint := by simp [Typed]
      ecsEndpoint := by simp [Typed]
      defaultRegion := by simp [Typed]
      requestTimeoutSecs := by simp [Typed]
      retry := fun value given => ⟨inner, retry given ▸ object, typed⟩
      shared := fun value given => ⟨inner', shared given ▸ object', typed'⟩ }
  rw [loaded]
  refine congrArg Except.ok ((unique _).mp ?_).symm
  exact ⟨.of_missing (by simp), .of_missing (by simp), .of_missing (by simp),
    .of_missing (by simp),
    ⟨fun value given => retry given ▸ isPolicy_blocksRetry,
      fun missing => absurd (by simp) (missing blocksRetry)⟩,
    ⟨fun value given => shared given ▸ isShared_blocksShared,
      fun missing => absurd (by simp) (missing blocksShared)⟩⟩

end Config
end BlockVolume
