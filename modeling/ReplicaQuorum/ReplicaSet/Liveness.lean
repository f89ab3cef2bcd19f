import ReplicaQuorum.ReplicaSet.Compare
import ReplicaQuorum.Journal.Logged

/-!
# Liveness

The statuses that members show while requests are in flight. A member's status starts from its role
when it is first asked for; it moves only as its role family allows, and observers of equal replica
sets can fold what the other one saw into their own record.
-/

namespace ReplicaQuorum

/-- The status that a role starts with. -/
def Roster.initialStatus? (r : Roster) (id : InstanceId) : Option Status :=
  if r.primary = id then some .primary
  else if r.tempPrimary = some id then some .tempPrimary
  else if id ∈ r.secondaries then some .secondary
  else if id ∈ r.joining then some .joiningSecondary
  else if id ∈ r.arbiters then some .arbiter
  else if id ∈ r.inactive then some .inactiveSecondary
  else none

namespace ReplicaSet

/-- The replica set with a status recorded. -/
def record (m : ReplicaSet) (id : InstanceId) (s : Status) : ReplicaSet :=
  { m with statuses := m.statuses.insert id s }

/-- The status recorded for a member, or the one that its role starts with. -/
def status? (m : ReplicaSet) (id : InstanceId) : Option Status :=
  (m.statuses.get? id).or (m.initialStatus? id)

/-- The notice that an inactive member was asked for its status. -/
def inactiveAsked (m : ReplicaSet) (id : InstanceId) : Notice :=
  Notice.ofEvent .warn .inactiveMemberStatus
    [("instance", toString id), ("version", m.version.text)]

/-- The status of a member, which is recorded when it is first asked for. -/
def statusOf (m : ReplicaSet) (id : InstanceId) :
    Logged (Except MembershipError Status × ReplicaSet) :=
  match m.statuses.get? id with
  | some s => ⟨(.ok s, m), []⟩
  | none =>
    match m.initialStatus? id with
    | none => ⟨(.error (.noRole id m), m), []⟩
    | some s =>
      ⟨(.ok s, m.record id s), if s = .inactiveSecondary then [m.inactiveAsked id] else []⟩

/-- The notice that a member cannot move to a status. -/
def moveRejected (id : InstanceId) (current next : Status) : Notice :=
  Notice.ofEvent .warn .statusMoveRejected
    [("instance", toString id), ("from", current.name), ("to", next.name)]

/-- Records a status where the member may move to it, and tells whether it did. -/
def mark (m : ReplicaSet) (id : InstanceId) (next : Status) :
    Logged (Except MembershipError Bool × ReplicaSet) :=
  if !m.contains id then ⟨(.error (.cannotMark id next m), m), []⟩
  else
    let known := m.statusOf id
    match known.value with
    | (.error e, m) => ⟨(.error e, m), known.notices⟩
    | (.ok current, m) =>
      if current.canMoveTo next then ⟨(.ok true, m.record id next), known.notices⟩
      else ⟨(.ok false, m), known.notices ++ [moveRejected id current next]⟩

/-- The notice that another observer's record changed a status. -/
def statusMerged (request : RequestId) (id : InstanceId) (mine theirs merged : Status) : Notice :=
  Notice.ofEvent .warn .statusMerged
    [("request_id", request.text), ("instance", toString id), ("mine", mine.name),
     ("theirs", theirs.name), ("merged", merged.name)]

/-- What two observers have recorded after one of them took from the other. -/
abbrev Observers := ReplicaSet × ReplicaSet

/-- Folds what another observer recorded of one member into the own record. -/
def absorbStatus (request : RequestId) (id : InstanceId) (m other : ReplicaSet) :
    Logged (Except MembershipError Unit × Observers) :=
  let theirs := other.statusOf id
  match theirs.value with
  | (.error e, other) => ⟨(.error e, m, other), theirs.notices⟩
  | (.ok seen, other) =>
    let mine := m.statusOf id
    match mine.value with
    | (.error e, m) => ⟨(.error e, m, other), theirs.notices ++ mine.notices⟩
    | (.ok current, m) =>
      let merged := current.merge seen
      if merged = current then ⟨(.ok (), m, other), theirs.notices ++ mine.notices⟩
      else
        let marked := m.mark id merged
        ⟨(marked.value.1.map fun _ => (), marked.value.2, other),
          theirs.notices ++ mine.notices ++ statusMerged request id current seen merged
            :: marked.notices⟩

/-- Folds what another observer recorded of some members into the own record, one after another up
to the first error. -/
def absorbStatuses (request : RequestId) :
    List InstanceId → ReplicaSet → ReplicaSet → Logged (Except MembershipError Unit × Observers)
  | [], m, other => ⟨(.ok (), m, other), []⟩
  | id :: ids, m, other =>
    let first := absorbStatus request id m other
    match first.value with
    | (.error e, m, other) => ⟨(.error e, m, other), first.notices⟩
    | (.ok _, m, other) =>
      let rest := absorbStatuses request ids m other
      ⟨rest.value, first.notices ++ rest.notices⟩

/-- The members whose statuses observers fold into each other: all but the inactive ones. -/
def observedMembers (m : ReplicaSet) : List InstanceId :=
  m.members.toList.filter fun id => id ∉ m.inactive

/-- Folds what another observer of an equal replica set recorded into the own record. -/
def absorb (m : ReplicaSet) (request : RequestId) (other : ReplicaSet) :
    Logged (Except MembershipError Unit × Observers) :=
  match m.compareTo other with
  | .error e => ⟨(.error e, m, other), []⟩
  | .ok .eq => absorbStatuses request other.observedMembers m other
  | .ok _ => ⟨(.error (.versionsDiffer m other), m, other), []⟩

end ReplicaSet

end ReplicaQuorum
