import BlockVolume.Ask
import BlockVolume.Volume.Option
/-!
Requests: the validated options of one disk on one node.

What the options leave out about the place of the node is asked of the instance metadata service.
`toOptions` writes a request as options again.
-/

namespace BlockVolume.Volume

/-- The option with the id of the disk. -/
def diskKey : String := "diskId"

/-- The option with the id of the node. -/
def nodeKey : String := "nodeId"

/-- The option with the zone of the node. -/
def zoneKey : String := "zoneId"

/-- The option with the region of the node. -/
def regionKey : String := "regionId"

/-- The option with the file system. -/
def fsTypeKey : String := "fsType"

/-- The option with the category of the disk. -/
def categoryKey : String := "type"

/-- The option that asks for a read-only mount. -/
def readOnlyKey : String := "readOnly"

/-- The option that asks for an encrypted disk. -/
def encryptedKey : String := "encrypted"

/-- The metadata resource that stands in for the id of the node. -/
def nodeResource : String := "instance-id"

/-- The metadata resource that stands in for the zone. -/
def zoneResource : String := "zone-id"

/-- The metadata resource that stands in for the region. -/
def regionResource : String := "region-id"

/-- A validated request. -/
structure Request where
  disk : String
  node : String
  zone : String
  region : String
  fsType : FsType
  category : Category
  readOnly : Bool
  encrypted : Bool
  deriving DecidableEq

/-- A step of reading options. -/
abbrev ParseStep := ExceptT ValidationError NodeProgram

/-- An option that is not blank, or else the metadata resource that stands in for it. -/
def resolve (options : Options) (key resource : String) : NodeProgram (Option String) :=
  match options.nonBlank? key with
  | some value => return some value
  | none => (CloudAsk.metadata resource).ask

/-- A value that must have been resolved. -/
def resolved (key : String) : Option String → Except ValidationError String
  | some value => .ok value
  | none => .error (.unresolved key)

/-- What options say without metadata: the disk, its file system and category. -/
def checkOptions (options : Options) : Except ValidationError (String × FsType × Category) := do
  let disk ←
    match options.nonBlank? diskKey with
    | some disk => .ok disk
    | none => .error (.missing diskKey)
  let fsType ←
    match options.lookup fsTypeKey with
    | some value => FsType.parse value
    | none => .ok .ext4
  let category ←
    match options.lookup categoryKey with
    | some value => Category.parse value
    | none => .ok .available
  return (disk, fsType, category)

namespace Request

/-- Reads options. The default region stands in where metadata has no region. -/
def parse (options : Options) (defaultRegion : String) : ParseStep Request := do
  let (disk, fsType, category) ← checkOptions options
  let node ← resolved nodeKey (← resolve options nodeKey nodeResource)
  let zone ← resolved zoneKey (← resolve options zoneKey zoneResource)
  let found ← resolve options regionKey regionResource
  let region ← resolved regionKey
    (found.or (if defaultRegion.isEmpty then none else some defaultRegion))
  return {
    disk, node, zone, region, fsType, category
    readOnly := isSet (options.lookup readOnlyKey)
    encrypted := isSet (options.lookup encryptedKey) }

/-- A request as options that read back to it. -/
def toOptions (request : Request) : Options :=
  [(diskKey, request.disk), (nodeKey, request.node), (zoneKey, request.zone),
   (regionKey, request.region), (fsTypeKey, request.fsType.name),
   (categoryKey, request.category.name), (readOnlyKey, switchText request.readOnly),
   (encryptedKey, switchText request.encrypted)]

/-- What an operation on the request locks. -/
def lockKey (request : Request) : LockKey := ⟨request.node, request.disk⟩

end Request
end BlockVolume.Volume
