import ReplicaQuorum.Journal.Severity
import ReplicaQuorum.Json

/-!
# Notices

A notice is one entry of the log: a severity, the name of an event, and fields. It is written as a
JSON object on a line of its own, the event and severity first and then the fields in the order of
their keys. Fields with one key stay in the order in which they were given, so the line depends on
the order of the fields only where keys repeat.
-/

namespace ReplicaQuorum

/-- An entry of the log. -/
structure Notice where
  severity : Severity
  event : String
  fields : List (String × String)
deriving DecidableEq, Repr

namespace Notice

/-- The notice of an event, which a fatal event raises to the highest severity. -/
def ofEvent (severity : Severity) (event : Event) (fields : List (String × String)) : Notice :=
  ⟨if event.isFatal then .fatal else severity, event.name, fields⟩

/-- The fields in the order of their keys. -/
def orderedFields (n : Notice) : List (String × String) :=
  n.fields.mergeSort fun a b => decide (a.1 ≤ b.1)

/-- The members of the line's object. -/
def members (n : Notice) : List (String × String) :=
  ("event", n.event) :: ("severity", n.severity.name) :: n.orderedFields

/-- The notice as one JSON object. -/
def body (n : Notice) : String :=
  (Json.record (n.members.map fun m => (m.1, Json.text m.2))).render

/-- The line that is written. -/
def line (n : Notice) : String :=
  n.body ++ "\n"

/-- The notices that are written when `minimum` is the lowest severity that is. -/
def enabled (minimum : Severity) (notices : List Notice) : List Notice :=
  notices.filter fun n => n.severity.isEnabled minimum

end Notice

end ReplicaQuorum
