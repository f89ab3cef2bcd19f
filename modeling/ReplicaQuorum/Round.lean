import ReplicaQuorum.Error
import ReplicaQuorum.Form
import ReplicaQuorum.Round.Participant

/-!
# Rounds

A round is one broadcast of a request to the members of a segment. It collects the participants, the
flags that the coordinator raises on the way, and what the round was started with. Members whose
status is down never take part, and no two participants have one identity.
-/

namespace ReplicaQuorum

/-- The state of one broadcast. -/
structure Round where
  request : RequestId := .nil
  /-- The participants in the order in which they were added. -/
  participants : List Participant := []
  form : Option Form := none
  zombie : Bool := false
  unstablePrimaryWrite : Bool := false
  /-- The request has to be sent again at once. -/
  resendDirectly : Bool := false
  metReadDownSecondary : Bool := false
  /-- The replica set in force when the request came in. -/
  replicas : Option ReplicaSet := none
  /-- The number of members that were asked to write. -/
  totalWrite : UInt32 := 0
  /-- The instances with connection trouble. -/
  unhealthy : IdSet := ∅
deriving DecidableEq

namespace Round

/-- A participant with the identity takes part. -/
def includes (r : Round) (identity : InstanceId × Endpoint) : Bool :=
  r.participants.any fun p => p.identity = identity

/-- A participant may be added: it is not down and its identity is not there yet. -/
def accepts (r : Round) (p : Participant) : Bool :=
  !p.status.isDown && !r.includes p.identity

/-- The round with one more participant, if it may be added. -/
def add (r : Round) (p : Participant) : Round :=
  if r.accepts p then { r with participants := r.participants ++ [p] } else r

/-- The participants that do more than confirm a read. -/
def realReaders (r : Round) : Except MembershipError (List Participant) :=
  match r.participants.filter fun p => !p.isCheck with
  | [] => .error (.noRealReader r.request)
  | readers => .ok readers

/-- The participants that only confirm a read. -/
def checkReaders (r : Round) : List Participant :=
  r.participants.filter Participant.isCheck

/-- The participant that returns the data of a read, if there is one. -/
def fetchReader (r : Round) : Except MembershipError (Option Participant) :=
  match r.participants.filter Participant.isFetch with
  | [] => .ok none
  | [reader] => .ok (some reader)
  | _ => .error (.manyFetchReaders r.request)

/-- The round without the participants that only confirm a read. -/
def dropChecks (r : Round) : Round :=
  { r with participants := r.participants.filter fun p => !p.isCheck }

/-- No participant belongs to the role family. -/
def isDown (r : Round) (family : Family) : Bool :=
  !r.participants.any fun p => p.hasFamily family

/-- A temporary primary takes part. -/
def hasTempPrimary (r : Round) : Bool :=
  r.participants.any fun p => p.status = .tempPrimary

/-- The round as it is shown. -/
def text (r : Round) : String :=
  let form := Participant.optionalName (r.form.map Form.name)
  s!"IoActionContext\x7brequest={r.request.text}, members={r.participants.length}, form={form}, "
    ++ s!"zombie={r.zombie}, unstablePrimaryWrite={r.unstablePrimaryWrite}, "
    ++ s!"resendDirectly={r.resendDirectly}, "
    ++ s!"metReadDownSecondary={r.metReadDownSecondary}\x7d"

end Round

end ReplicaQuorum
