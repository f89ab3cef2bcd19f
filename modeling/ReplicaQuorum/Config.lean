import ReplicaQuorum.Encoding
import ReplicaQuorum.Error
import ReplicaQuorum.FileContents
import ReplicaQuorum.Journal.Logged
import ReplicaQuorum.Json.Read
import ReplicaQuorum.Text.Blank

/-!
# Configuration

The settings of an engine, read from one JSON text. Every setting has a default, so an empty object
describes a regular volume that is kept in memory.
-/

namespace ReplicaQuorum

/-- The settings of an engine. -/
structure Config where
  /-- The type of the volumes handled here. -/
  volumeType : VolumeType := .regular
  /-- The local instance, on a storage node. -/
  instanceId : Option InstanceId := none
  /-- The log file; without one, replica sets stay in memory. -/
  storePath : Option String := none
  /-- Every record is brought to the disk before going on. -/
  fsyncOnPersist : Bool := true
deriving DecidableEq, Repr

namespace Config

/-- The names of the settings. -/
def fieldNames : List String :=
  ["volume_type", "instance_id", "store_path", "fsync_on_persist"]

/-- The settings as a JSON object. -/
def json (c : Config) : Json :=
  .record
    [("volume_type", c.volumeType.json), ("instance_id", .optionalId c.instanceId),
     ("store_path", .ofOption Json.text c.storePath), ("fsync_on_persist", .bool c.fsyncOnPersist)]

/-- The settings that a JSON value stands for. -/
def ofJson? (v : Json) : Option Config :=
  match v.fields? fieldNames with
  | some [volumeType, instanceId, storePath, fsyncOnPersist] => do
    let volumeType ← Json.orDefault .regular VolumeType.ofJson? volumeType
    let instanceId ← Json.orDefault none (Json.asNullable? Json.asUInt64?) instanceId
    let storePath ← Json.orDefault none (Json.asNullable? Json.asText?) storePath
    let fsyncOnPersist ← Json.orDefault true Json.asBool? fsyncOnPersist
    some { volumeType, instanceId, storePath, fsyncOnPersist }
  | _ => none

/-- The log file has a name. -/
def isValid (c : Config) : Bool :=
  c.storePath.all fun path => !Text.isAllBlank path.toList

/-- Reads settings and checks them. The account that the reader gives of a text that holds no
settings is not kept; one reason stands for all of them. -/
def read (text : String) : Except MembershipError Config :=
  match (Json.read? text.toList).bind ofJson? with
  | none => .error (.invalidConfig "not a configuration")
  | some c => if c.isValid then .ok c else .error .emptyStorePath

/-- The notice that settings were loaded. -/
def loaded (path : String) (c : Config) : Notice :=
  Notice.ofEvent .info .configLoaded [("path", path), ("volume_type", c.volumeType.name)]

/-- Loads the settings from what there is to read at a path. -/
def load (path : String) (file : FileContents) : Logged (Except MembershipError Config) :=
  match file.text with
  | .error reason => ⟨.error (.unreadableConfig path reason), []⟩
  | .ok text =>
    match read text with
    | .error e => ⟨.error e, []⟩
    | .ok c => ⟨.ok c, [loaded path c]⟩

end Config

end ReplicaQuorum
