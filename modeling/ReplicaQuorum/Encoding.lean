import ReplicaQuorum.Endpoint
import ReplicaQuorum.IdSet
import ReplicaQuorum.Json.Decode
import ReplicaQuorum.Status
import ReplicaQuorum.Version
import ReplicaQuorum.VolumeType

/-!
# Encodings

The JSON forms of identifiers, addresses, versions, statuses and volume types.
-/

namespace ReplicaQuorum

/-- An identifier as a JSON number. -/
def Json.id (n : UInt64) : Json :=
  .nat n.toNat

/-- An identifier that may be absent. -/
def Json.optionalId (n : Option InstanceId) : Json :=
  .ofOption Json.id n

/-- A set of identifiers as a JSON array. -/
def Json.ids (s : IdSet) : Json :=
  .ofList Json.id s.toList

/-- The address as a JSON object. -/
def Endpoint.json (e : Endpoint) : Json :=
  .record [("host", .text e.host), ("port", .nat e.port.toNat)]

/-- The address that a JSON value stands for. -/
def Endpoint.ofJson? (v : Json) : Option Endpoint :=
  match v.fields? ["host", "port"] with
  | some [some host, some port] => do some ⟨← host.asText?, ← port.asUInt16?⟩
  | _ => none

/-- The version as a JSON object. -/
def Version.json (v : Version) : Json :=
  .record [("epoch", .id v.epoch), ("generation", .id v.generation)]

/-- The version that a JSON value stands for. -/
def Version.ofJson? (v : Json) : Option Version :=
  match v.fields? ["epoch", "generation"] with
  | some [some epoch, some generation] => do some ⟨← epoch.asUInt64?, ← generation.asUInt64?⟩
  | _ => none

/-- The status as a JSON string. -/
def Status.json (s : Status) : Json :=
  .text s.name

/-- The status that a JSON value stands for. -/
def Status.ofJson? (v : Json) : Option Status :=
  v.asName?.bind Status.ofName?

/-- The volume type as a JSON string. -/
def VolumeType.json (v : VolumeType) : Json :=
  .text v.name

/-- The volume type that a JSON value stands for. -/
def VolumeType.ofJson? (v : Json) : Option VolumeType :=
  v.asName?.bind fun name => VolumeType.all.find? fun volume => volume.name = name

end ReplicaQuorum
