import ReplicaQuorum.IdMap
import ReplicaQuorum.ReplicaSet.Violation
import ReplicaQuorum.Status

/-!
# Replica sets

The authoritative replica set of one segment: a roster, a flag that a quorum has adopted it, and the
statuses of members recorded so far while requests were in flight. Two replica sets count as equal
if their rosters are; the flag and the statuses belong to the observer.
-/

namespace ReplicaQuorum

/-- The replica set of a segment. -/
structure ReplicaSet extends Roster where
  /-- A quorum has adopted the roster. -/
  quorumUpdated : Bool
  /-- The statuses recorded so far. -/
  statuses : IdMap Status := ∅
deriving DecidableEq

namespace ReplicaSet

/-- The replica set of a roster that nobody has seen yet. Without other members in use there is
nobody whose consent is missing. -/
def ofRoster (r : Roster) : ReplicaSet :=
  { r with quorumUpdated := r.isAlone }

/-- The replica set of a well formed roster. -/
def build (r : Roster) : Except Violation ReplicaSet :=
  match r.violation? with
  | some violation => .error violation
  | none => .ok (ofRoster r)

/-- A copy of a replica set: of its roster, its mark and the statuses recorded so far. -/
def copy (m : ReplicaSet) : ReplicaSet :=
  { m.toRoster with quorumUpdated := m.quorumUpdated, statuses := m.statuses }

/-- A copy is the replica set itself. -/
@[simp]
theorem copy_eq (m : ReplicaSet) : m.copy = m :=
  rfl

/-- One part of the text after the version and the primary. -/
def optionalPart (label : String) : Option InstanceId → String
  | some id => s!", {label}={id}"
  | none => ""

/-- The members of a role in the text, left out if there are none. -/
def membersPart (label : String) (ids : IdSet) : String :=
  if ids.isEmpty then ""
  else s!", {label}=[" ++ String.intercalate ", " (ids.toList.map toString) ++ "]"

/-- The replica set as messages and logs show it. -/
def text (m : ReplicaSet) : String :=
  s!"SegmentMembership\x7b{m.version.text}, primary={m.primary}"
    ++ optionalPart "tempPrimary" m.tempPrimary
    ++ membersPart "secondaries" m.secondaries
    ++ membersPart "arbiters" m.arbiters
    ++ membersPart "inactiveSecondaries" m.inactive
    ++ membersPart "joiningSecondaries" m.joining
    ++ optionalPart "secondaryCandidate" m.secondaryCandidate
    ++ optionalPart "primaryCandidate" m.primaryCandidate
    ++ s!", quorumUpdated={m.quorumUpdated}\x7d"

end ReplicaSet

end ReplicaQuorum
