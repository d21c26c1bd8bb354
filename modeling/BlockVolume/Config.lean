import BlockVolume.Json.Record
import BlockVolume.Node.Service
/-!
The configuration of a node: one JSON document, every part of which may be left out.

What is left out keeps its default, field by field, at both levels.
-/

namespace BlockVolume

open BlockVolume.Json (Value)
open BlockVolume.Operation (RetryPolicy)
open BlockVolume.Text (Bytes quote record redacted)

/-- Options shared with the other plugins of a cluster. -/
structure GlobalOptions where
  clusterTag : String
  accessKeyId : String
  accessKeySecret : String
  region : String
  deriving DecidableEq

/-- The configuration of a node. -/
structure Config where
  metadataEndpoint : String
  ecsEndpoint : String
  defaultRegion : String
  requestTimeoutSecs : UInt64
  retry : RetryPolicy
  shared : GlobalOptions
  deriving DecidableEq

/-- Why there is no configuration. -/
inductive ConfigError where
  | read (path : Path)
  | parse (path : Path)
  deriving DecidableEq

/-- The text of an error. -/
def ConfigError.message : ConfigError → String
  | .read path => "failed to read config file " ++ path.text
  | .parse path => "failed to parse config file " ++ path.text

/-- An unsigned integer of 64 bits. -/
def asUInt64 (value : Value) : Except Json.Error UInt64 :=
  (value.asNatBelow UInt64.size).map UInt64.ofNat

/-- An unsigned integer of 32 bits. -/
def asUInt32 (value : Value) : Except Json.Error UInt32 :=
  (value.asNatBelow UInt32.size).map UInt32.ofNat

/-- Reads a retry policy. -/
def parsePolicy (value : Value) : Except Json.Error RetryPolicy := do
  let found ← value.fields ["maxAttempts", "initialBackoffMs", "maxBackoffMs"]
  let maxAttempts ← found.optional "maxAttempts" asUInt32 RetryPolicy.standard.maxAttempts
  let initialBackoffMs ←
    found.optional "initialBackoffMs" asUInt64 RetryPolicy.standard.initialBackoffMs
  let maxBackoffMs ← found.optional "maxBackoffMs" asUInt64 RetryPolicy.standard.maxBackoffMs
  return { maxAttempts, initialBackoffMs, maxBackoffMs }

namespace GlobalOptions

/-- Nothing shared. -/
def standard : GlobalOptions := ⟨"", "", "", ""⟩

/-- Reads shared options. -/
def parse (value : Value) : Except Json.Error GlobalOptions := do
  let found ← value.fields ["KubernetesClusterTag", "accessKeyID", "accessKeySecret", "region"]
  let clusterTag ← found.optional "KubernetesClusterTag" Value.asText ""
  let accessKeyId ← found.optional "accessKeyID" Value.asText ""
  let accessKeySecret ← found.optional "accessKeySecret" Value.asText ""
  let region ← found.optional "region" Value.asText ""
  return { clusterTag, accessKeyId, accessKeySecret, region }

/-- The shared options written out, the secret left out. -/
def describe (options : GlobalOptions) : String :=
  record "GlobalOptions"
    [("kubernetes_cluster_tag", quote options.clusterTag),
     ("access_key_id", quote options.accessKeyId), ("access_key_secret", redacted),
     ("region", quote options.region)]

end GlobalOptions

namespace Config

/-- The configuration of an empty document. -/
def standard : Config where
  metadataEndpoint := "http://100.100.100.200/latest/meta-data/"
  ecsEndpoint := "https://ecs.aliyuncs.com/"
  defaultRegion := "cn-hangzhou"
  requestTimeoutSecs := 10
  retry := .standard
  shared := .standard

/-- Reads a configuration. -/
def ofValue (value : Value) : Except Json.Error Config := do
  let found ← value.fields
    ["metadataEndpoint", "ecsEndpoint", "defaultRegion", "requestTimeoutSecs", "retry", "Global"]
  let metadataEndpoint ← found.optional "metadataEndpoint" Value.asText standard.metadataEndpoint
  let ecsEndpoint ← found.optional "ecsEndpoint" Value.asText standard.ecsEndpoint
  let defaultRegion ← found.optional "defaultRegion" Value.asText standard.defaultRegion
  let requestTimeoutSecs ←
    found.optional "requestTimeoutSecs" asUInt64 standard.requestTimeoutSecs
  let retry ← found.optional "retry" parsePolicy standard.retry
  let shared ← found.optional "Global" GlobalOptions.parse standard.shared
  return { metadataEndpoint, ecsEndpoint, defaultRegion, requestTimeoutSecs, retry, shared }

/-- Reads a configuration document. -/
def parse (document : Bytes) : Except Json.Error Config :=
  Json.read document >>= ofValue

/-- The configuration in the file at a path, or the default where there is no path. `read` gives the
content of a file, nothing where it cannot be read. -/
def load (read : Path → Option Bytes) : Option Path → Except ConfigError Config
  | none => .ok standard
  | some path =>
    match read path with
    | none => .error (.read path)
    | some document =>
      match parse document with
      | .ok config => .ok config
      | .error _ => .error (.parse path)

/-- The environment variable that names the configuration file. -/
def pathVariable : String := "DISK_PLUGIN_CONFIG"

/-- The configuration in the file that the environment names, or the default if it names none. -/
def ofEnvironment (read : Path → Option Bytes) (environment : List (String × String)) :
    Except ConfigError Config :=
  load read <|
    match environment.lookup pathVariable with
    | some text => if text.isEmpty then none else some ⟨text⟩
    | none => none

/-- The region where neither options nor metadata tell one. -/
def region (config : Config) : String :=
  if config.shared.region.isEmpty then config.defaultRegion else config.shared.region

/-- The configuration written out. -/
def describe (config : Config) : String :=
  record "DiskConfig"
    [("metadata_endpoint", quote config.metadataEndpoint),
     ("ecs_endpoint", quote config.ecsEndpoint),
     ("default_region", quote config.defaultRegion),
     ("request_timeout_secs", toString config.requestTimeoutSecs.toNat),
     ("retry", config.retry.describe), ("global", config.shared.describe)]

/-- The node of a configuration, in an environment. -/
def service (config : Config) (environment : List (String × String)) : Node.Service where
  defaultRegion := config.region
  attacher :=
    { source := .ofKeys environment config.shared.accessKeyId config.shared.accessKeySecret
      policy := config.retry }

end Config
end BlockVolume
