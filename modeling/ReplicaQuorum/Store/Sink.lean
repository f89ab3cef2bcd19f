import ReplicaQuorum.Store.LogFile

/-!
# Sinks

Where replica sets are persisted: a list of records in memory, or a log file. A sink takes no
replica set that is older than the newest one it has of the segment. A log file is read as a whole
when it is opened, and what it holds is verified again whenever it is read.
-/

namespace ReplicaQuorum

/-- Refuses a version that is older than the one persisted. -/
def refuseStale (segment : SegmentId) (persisted : Option Version) (offered : Version) :
    Except StoreError Unit :=
  match persisted with
  | some persisted =>
    if offered < persisted then .error (.staleVersion segment offered persisted) else .ok ()
  | none => .ok ()

/-- The records of a segment. -/
def recordsOf (segment : SegmentId) (records : List SnapshotRecord) : List SnapshotRecord :=
  records.filter fun r => r.segment = segment

/-- The replica set of the last record of a segment. -/
def latestOf (segment : SegmentId) (records : List SnapshotRecord) :
    Except StoreError (Option ReplicaSet) :=
  match (recordsOf segment records).getLast? with
  | none => .ok none
  | some r => r.replicas.map some

/-- Records in memory. -/
structure MemorySink where
  records : List SnapshotRecord := []
deriving DecidableEq

namespace MemorySink

/-- Adds the record of a replica set. -/
def persist (s : MemorySink) (now : Instant) (segment : SegmentId) (m : ReplicaSet) :
    Except StoreError MemorySink := do
  let latest ← latestOf segment s.records
  refuseStale segment (latest.map fun persisted => persisted.version) m.version
  .ok ⟨s.records ++ [.ofReplicaSet now segment m]⟩

/-- The newest replica set of a segment. -/
def loadLatest (s : MemorySink) (segment : SegmentId) : Except StoreError (Option ReplicaSet) :=
  latestOf segment s.records

end MemorySink

/-- A log file with the newest version of each segment. -/
structure FileSink where
  path : String
  /-- The bytes of the file. -/
  log : List UInt8 := []
  /-- The newest version of each segment. -/
  latest : IdMap Version := ∅
deriving DecidableEq

namespace FileSink

/-- The newest versions with one more version of a segment. -/
def newest (latest : IdMap Version) (segment : SegmentId) (version : Version) : IdMap Version :=
  match latest.get? segment with
  | some known => if known < version then latest.insert segment version else latest
  | none => latest.insert segment version

/-- The newest version of each segment among some records. -/
def newestOf : List SnapshotRecord → IdMap Version → Except StoreError (IdMap Version)
  | [], latest => .ok latest
  | r :: rest, latest =>
    match r.replicas with
    | .error e => .error e
    | .ok m => newestOf rest (newest latest r.segment m.version)

/-- The sink over the log at a path, whose bytes are given if the file exists. -/
def ofFile (path : String) (file : Option (List UInt8)) :
    Logged (Except StoreError FileSink) :=
  match file with
  | none => ⟨.ok { path }, []⟩
  | some log =>
    let records := LogFile.records path log
    ⟨records.value.bind fun records =>
      (newestOf records ∅).map fun latest => { path, log, latest }, records.notices⟩

/-- The notice that a replica set was persisted. -/
def persisted (s : FileSink) (segment : SegmentId) (version : Version) : Notice :=
  Notice.ofEvent .trace .snapshotPersisted
    [("segment", toString segment), ("version", version.text), ("path", s.path)]

/-- Adds the record of a replica set to the end of the file. -/
def persist (s : FileSink) (now : Instant) (segment : SegmentId) (m : ReplicaSet) :
    Logged (Except StoreError FileSink) :=
  match refuseStale segment (s.latest.get? segment) m.version with
  | .error e => ⟨.error e, []⟩
  | .ok _ =>
    ⟨.ok
      { s with
        log := LogFile.append s.log (.ofReplicaSet now segment m)
        latest := s.latest.insert segment m.version },
      [s.persisted segment m.version]⟩

/-- The records of a segment, oldest first. -/
def history (s : FileSink) (segment : SegmentId) :
    Logged (Except StoreError (List SnapshotRecord)) :=
  let records := LogFile.records s.path s.log
  ⟨records.value.map (recordsOf segment), records.notices⟩

/-- The replica set of the last record of a segment. -/
def loadLatest (s : FileSink) (segment : SegmentId) :
    Logged (Except StoreError (Option ReplicaSet)) :=
  let records := LogFile.records s.path s.log
  ⟨records.value.bind (latestOf segment), records.notices⟩

end FileSink

/-- Where replica sets are persisted. -/
inductive Sink where
  | memory (s : MemorySink)
  | file (s : FileSink)
deriving DecidableEq

namespace Sink

/-- The sink without records in memory. -/
def empty : Sink := .memory {}

/-- The sink over the log at a path, or in memory if there is no path. -/
def ofPath (path : Option String) (file : Option (List UInt8)) :
    Logged (Except StoreError Sink) :=
  match path with
  | none => ⟨.ok empty, []⟩
  | some path =>
    let opened := FileSink.ofFile path file
    ⟨opened.value.map Sink.file, opened.notices⟩

/-- Persists a replica set. -/
def persist (s : Sink) (now : Instant) (segment : SegmentId) (m : ReplicaSet) :
    Logged (Except StoreError Sink) :=
  match s with
  | memory s => ⟨(s.persist now segment m).map Sink.memory, []⟩
  | file s =>
    let persisted := s.persist now segment m
    ⟨persisted.value.map Sink.file, persisted.notices⟩

/-- The newest replica set of a segment, as it was persisted. -/
def loadLatest (s : Sink) (segment : SegmentId) :
    Logged (Except StoreError (Option ReplicaSet)) :=
  match s with
  | memory s => ⟨s.loadLatest segment, []⟩
  | file s => s.loadLatest segment

end Sink

end ReplicaQuorum
