import ReplicaQuorum.Endpoint
import ReplicaQuorum.Status
import ReplicaQuorum.Word

/-!
# Participants

A member that takes part in a round. The instance and its address identify it; the status and the
purpose of contacting it are notes for the round.
-/

namespace ReplicaQuorum

/-- Why a member is contacted during a read. -/
inductive ReadCause where
  /-- To confirm the membership, without returning data. -/
  | check
  /-- To return the data that answers the read. -/
  | fetch
deriving DecidableEq, Repr

/-- The name of the cause. -/
def ReadCause.name : ReadCause → String
  | .check => "Check"
  | .fetch => "Fetch"

/-- The cause with a name. -/
def ReadCause.ofName? (name : String) : Option ReadCause :=
  [ReadCause.check, ReadCause.fetch].find? fun c => c.name = name

/-- A member that takes part in a round. -/
structure Participant where
  id : InstanceId
  endpoint : Endpoint
  status : Status
  cause : Option ReadCause := none
deriving DecidableEq, Repr

namespace Participant

/-- What identifies a participant. -/
def identity (p : Participant) : InstanceId × Endpoint :=
  (p.id, p.endpoint)

/-- The participant only confirms a read. -/
def isCheck (p : Participant) : Bool :=
  p.cause = some .check

/-- The participant returns the data of a read. -/
def isFetch (p : Participant) : Bool :=
  p.cause = some .fetch

/-- The participant belongs to a role family. -/
def hasFamily (p : Participant) (family : Family) : Bool :=
  p.status.family = some family

/-- An optional name as the texts of rounds show it. -/
def optionalName : Option String → String
  | some name => s!"Some({name})"
  | none => "None"

/-- The participant as it is shown. -/
def text (p : Participant) : String :=
  s!"IoMember\x7binstance={p.id}, endpoint={p.endpoint.text}, status={p.status.name}, "
    ++ s!"readCause={optionalName (p.cause.map ReadCause.name)}\x7d"

end Participant

/-- The secondaries that answered a read well, by what they were asked for. -/
structure ReaderCounts where
  fetch : UInt32 := 0
  check : UInt32 := 0
deriving DecidableEq, Repr

namespace ReaderCounts

/-- One more secondary that returned data. -/
def addFetch (c : ReaderCounts) : Except Overflow ReaderCounts :=
  (add32 c.fetch 1).map fun fetch => { c with fetch }

/-- One more secondary that confirmed. -/
def addCheck (c : ReaderCounts) : Except Overflow ReaderCounts :=
  (add32 c.check 1).map fun check => { c with check }

/-- All secondaries that answered. -/
def total (c : ReaderCounts) : Except Overflow UInt32 :=
  add32 c.fetch c.check

end ReaderCounts

end ReplicaQuorum
