import ReplicaQuorum.Command

/-!
# Responses

What a command writes: the log lines it gave on the way, each to the stream of its severity, and
then one JSON object with the answer or the error.
-/

namespace ReplicaQuorum

namespace CommandError

/-- The JSON object of an error. -/
def response (e : CommandError) : Json :=
  .sortedRecord
    [("status", .text "error"), ("code", .text e.code), ("message", .text e.message)]

end CommandError

namespace Command

/-- The JSON object of an answer. -/
def response (answer : Json) : Json :=
  .sortedRecord [("status", .text "ok"), ("data", answer)]

end Command

/-- What a command writes to the two streams, the complaint with which it ends if it fails, and its
exit code. -/
structure Report where
  out : List String
  err : List String
  complaint : Option String
  exitCode : UInt32
deriving DecidableEq, Repr

namespace Report

/-- The lowest severity of the log lines that a command writes. -/
def minimum : Severity := .info

/-- The lines of the log for one of the streams. -/
def logLines (alarms : Bool) (notices : List Notice) : List String :=
  ((Notice.enabled minimum notices).filter fun n => n.severity.isAlarm = alarms).map Notice.body

/-- The lines that the log and the response leave in the streams. -/
def ofAnswer (l : Logged Command.Answer) : Report :=
  let out := logLines false l.notices
  let err := logLines true l.notices
  match l.value with
  | .ok answer => ⟨out ++ [(Command.response answer).render], err, none, 0⟩
  | .error (.error e) => ⟨out ++ [e.response.render], err, some e.text, 1⟩
  | .error (.overflow o) => ⟨out, err, some o.message, 101⟩

end Report

end ReplicaQuorum
