import ReplicaQuorum.Instant
import ReplicaQuorum.Json.Decode
import ReplicaQuorum.ReplicaSet.Content
import ReplicaQuorum.Store.Checksum
import ReplicaQuorum.Store.Error

/-!
# Snapshot records

A persisted replica set: its segment, its content, the checksum over both, and when it was
persisted. A record is written as a JSON object.
-/

namespace ReplicaQuorum

/-- A persisted replica set. -/
structure SnapshotRecord where
  segment : SegmentId
  content : String
  crc32 : UInt32
  persistedAt : Instant
deriving DecidableEq, Repr

namespace SnapshotRecord

/-- The record of a replica set. -/
def ofReplicaSet (now : Instant) (segment : SegmentId) (m : ReplicaSet) : SnapshotRecord :=
  let content := Content.encode m.toRoster
  ⟨segment, content, checksum segment content, now⟩

/-- The checksum fits the record. -/
def isIntact (r : SnapshotRecord) : Bool :=
  verifies r.segment r.content r.crc32

/-- The replica set that was persisted. -/
def replicas (r : SnapshotRecord) : Except StoreError ReplicaSet :=
  match Content.decode r.content with
  | .ok m => .ok m
  | .error e => .error (.content e)

/-- The record as a JSON object. -/
def json (r : SnapshotRecord) : Json :=
  .record
    [("segment", .nat r.segment.toNat), ("content", .text r.content),
     ("crc32", .nat r.crc32.toNat), ("persisted_at", .text r.persistedAt.recordText)]

/-- The instant in a JSON string. -/
def instantOfJson? (v : Json) : Option Instant :=
  v.asText?.bind fun s => Instant.read? s.toList

/-- The record that a JSON value stands for. -/
def ofJson? (v : Json) : Option SnapshotRecord :=
  match v.fields? ["segment", "content", "crc32", "persisted_at"] with
  | some [some segment, some content, some crc32, some persistedAt] => do
    let segment ← segment.asUInt64?
    let content ← content.asText?
    let crc32 ← crc32.asUInt32?
    let persistedAt ← instantOfJson? persistedAt
    some ⟨segment, content, crc32, persistedAt⟩
  | _ => none

end SnapshotRecord

end ReplicaQuorum
