import ReplicaQuorum.Config
import ReplicaQuorum.Form.Verdict
import ReplicaQuorum.ReplicaSet.Broadcast
import ReplicaQuorum.ReplicaSet.Describe
import ReplicaQuorum.Spelling
import ReplicaQuorum.Store.LogFile

/-!
# Commands

What can be asked from the command line. Commands only look: they decode a content, classify it,
evaluate a write quorum, or read a log. Each answers with one JSON value.
-/

namespace ReplicaQuorum

/-- A question from the command line. -/
inductive Command where
  /-- What a content stands for. -/
  | decode (content : String)
  /-- The form of a content under a volume type. -/
  | form (content volumeType : String)
  /-- Whether good answers complete a write. -/
  | checkWrite (content : String) (quorum : UInt32) (good : RoleCounts)
  /-- The newest replica set of a segment in the configured log. -/
  | history (config : String) (segment : SegmentId)
deriving DecidableEq, Repr

/-- Why a command fails. -/
inductive CommandError where
  | membership (e : MembershipError)
  | store (e : StoreError)
  | noStorePath
  | noLog (path : String)
deriving DecidableEq

namespace CommandError

/-- The code of an error. -/
def code : CommandError → String
  | membership e =>
    if e.kind = .configuration then "SEGQ_CLI_CONFIG_ERROR" else "SEGQ_CLI_MEMBERSHIP_ERROR"
  | store _ => "SEGQ_CLI_STORE_ERROR"
  | noStorePath => "SEGQ_CLI_CONFIG_ERROR"
  | noLog _ => "SEGQ_CLI_CONFIG_ERROR"

/-- What is reported of an error. -/
def message : CommandError → String
  | membership e => e.describe
  | store e => e.message
  | noStorePath => "store_path is not configured"
  | noLog path => s!"membership log {path} does not exist"

/-- The error with its code. -/
def text (e : CommandError) : String :=
  s!"{e.code}: {e.message}"

end CommandError

namespace Command

/-- The answer to a command. -/
abbrev Answer := Except (Fault CommandError) Json

/-- The outcome with the errors of replica sets as errors of the command. -/
def ofMembership {α : Type} : Except MembershipError α → Except (Fault CommandError) α
  | .ok a => .ok a
  | .error e => .error (.error (.membership e))

/-- The outcome with the errors of stores as errors of the command. -/
def ofStore {α : Type} : Except StoreError α → Except (Fault CommandError) α
  | .ok a => .ok a
  | .error e => .error (.error (.store e))

/-- What a content stands for. -/
def answerDecode (content : String) : Answer := do
  let m ← ofMembership (Content.decode content)
  .ok m.json

/-- The form of a content and what its policy allows. -/
def answerForm (content volumeType : String) : Answer := do
  let m ← ofMembership (Content.decode content)
  let v ← ofMembership (VolumeType.read volumeType)
  let form ← ofMembership (m.form v)
  let secondaries := UInt32.ofNat m.secondaries.size
  let joining := UInt32.ofNat m.joining.size
  let writable ← Fault.ofChecked (form.writable v 1 secondaries joining)
  .ok <| .sortedRecord
    [("form", .text form.name),
     ("volume_type", .text v.name),
     ("write_quorum", .nat v.writeQuorum.toNat),
     ("can_generate_new_primary", .bool form.policy.canElectPrimary),
     ("only_primary", .bool form.policy.primaryOnly),
     ("safe_to_become_primary_with_a_secondary_missing",
       .bool form.policy.safeWithSecondaryMissing),
     ("writable_with_all_alive", .bool writable)]

/-- Whether good answers complete a write to a content. -/
def answerCheckWrite (content : String) (quorum : UInt32) (good : RoleCounts) : Answer := do
  let m ← ofMembership (Content.decode content)
  let reached ← Fault.ofChecked (m.completesWrite quorum good)
  .ok <| .sortedRecord
    [("write_quorum", .nat quorum.toNat),
     ("good", .sortedRecord
       [("secondaries", .nat good.secondaries.toNat), ("joining", .nat good.joining.toNat),
        ("arbiters", .nat good.arbiters.toNat)]),
     ("quorum_reached", .bool reached)]

/-- The description of the replica set in a record, with the time when it was persisted. -/
def describeRecord (r : SnapshotRecord) : Answer := do
  let m ← ofStore r.replicas
  .ok <| .sortedRecord (m.description ++ [("persisted_at", .text r.persistedAt.text)])

/-- The newest of the records of a segment, and their number. -/
def answerHistory (segment : SegmentId) (records : List SnapshotRecord) : Answer := do
  let mine := records.filter fun r => r.segment = segment
  let latest ← match mine.getLast? with
    | some r => describeRecord r
    | none => .ok .null
  .ok <| .sortedRecord
    [("segment", .id segment), ("snapshots", .nat mine.length), ("latest", latest)]

/-- The newest replica set of a segment in a log, from what there is to read at its path. -/
def answerLog (path : String) (segment : SegmentId) : FileContents → Logged Answer
  | .absent => ⟨.error (.error (.noLog path)), []⟩
  | .unreadable reason => ⟨.error (.error (.store (.io reason))), []⟩
  | .bytes log =>
    let records := LogFile.records path log
    ⟨(ofStore records.value).bind (answerHistory segment), records.notices⟩

variable {μ : Type → Type} [Monad μ]

/-- The newest replica set of a segment in the log that the settings at a path name. -/
def runHistory (readFile : String → μ FileContents) (config : String) (segment : SegmentId) :
    μ (Logged Answer) := do
  let loaded := Config.load config (← readFile config)
  match loaded.value with
  | .error e => return ⟨.error (.error (.membership e)), loaded.notices⟩
  | .ok c =>
    match c.storePath with
    | none => return ⟨.error (.error .noStorePath), loaded.notices⟩
    | some path =>
      let answer := answerLog path segment (← readFile path)
      return ⟨answer.value, loaded.notices ++ answer.notices⟩

/-- The answer to a command, where `readFile` tells what there is to read at a path. -/
def run (readFile : String → μ FileContents) : Command → μ (Logged Answer)
  | decode content => return ⟨answerDecode content, []⟩
  | form content volumeType => return ⟨answerForm content volumeType, []⟩
  | checkWrite content quorum good => return ⟨answerCheckWrite content quorum good, []⟩
  | history config segment => runHistory readFile config segment

end Command

end ReplicaQuorum
