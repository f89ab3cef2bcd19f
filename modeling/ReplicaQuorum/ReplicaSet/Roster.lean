import ReplicaQuorum.IdSet
import ReplicaQuorum.Version
import ReplicaQuorum.VolumeType

/-!
# Rosters

A roster says which instance holds which role in a segment at one version: the primary, the
secondaries, arbiters, inactive and joining secondaries, a secondary that serves as temporary
primary, a secondary that is to become primary, and an instance that is registered to replace a
member. A roster is well formed if no instance holds two roles; the views and counts make sense of
any roster.
-/

namespace ReplicaQuorum

/-- The roles besides the primary that a set of members holds. -/
inductive Role where
  | secondary
  | arbiter
  | inactive
  | joining
deriving DecidableEq, Repr

namespace Role

/-- All roles, in the order in which they are checked. -/
def all : List Role := [secondary, arbiter, inactive, joining]

/-- The members in the role, as messages call them. -/
def plural : Role → String
  | secondary => "secondaries"
  | arbiter => "arbiters"
  | inactive => "inactive secondaries"
  | joining => "joining secondaries"

end Role

/-- Who holds which role at one version. -/
structure Roster where
  primary : InstanceId
  version : Version := .zero
  /-- A secondary that serves as primary while the formal primary is unusable. -/
  tempPrimary : Option InstanceId := none
  secondaries : IdSet := ∅
  arbiters : IdSet := ∅
  inactive : IdSet := ∅
  joining : IdSet := ∅
  /-- The secondary that is to become primary in a planned switch. -/
  primaryCandidate : Option InstanceId := none
  /-- The instance that is registered to replace a member. -/
  secondaryCandidate : Option InstanceId := none
deriving DecidableEq

namespace Roster

/-- The members in a role. -/
def inRole (r : Roster) : Role → IdSet
  | .secondary => r.secondaries
  | .arbiter => r.arbiters
  | .inactive => r.inactive
  | .joining => r.joining

/-- The instance is in some role besides the primary. -/
def isSecondaryOfAnyKind (r : Roster) (id : InstanceId) : Bool :=
  Role.all.any fun role => id ∈ r.inRole role

/-- A roster without two roles for one instance. -/
structure WellFormed (r : Roster) : Prop where
  primary_notMem : ∀ role, r.primary ∉ r.inRole role
  disjoint : ∀ left right id, id ∈ r.inRole left → id ∈ r.inRole right → left = right
  primaryCandidate_mem : ∀ id, r.primaryCandidate = some id → id ∈ r.secondaries
  secondaryCandidate_ne : ∀ id, r.secondaryCandidate = some id → id ≠ r.primary
  secondaryCandidate_notMem : ∀ id, r.secondaryCandidate = some id → ∀ role, id ∉ r.inRole role

/-- The secondaries of every kind. -/
def allSecondaries (r : Roster) : IdSet :=
  r.secondaries ∪ r.arbiters ∪ r.inactive ∪ r.joining

/-- The secondaries of every kind but the inactive ones. -/
def aliveSecondaries (r : Roster) : IdSet :=
  r.secondaries ∪ r.arbiters ∪ r.joining

/-- The secondaries and arbiters. -/
def secondariesAndArbiters (r : Roster) : IdSet :=
  r.secondaries ∪ r.arbiters

/-- The members besides the primary that receive writes. -/
def writeSecondaries (r : Roster) : IdSet :=
  r.secondaries ∪ r.joining

/-- The instances that the primary exchanges heartbeats with. -/
def heartbeatMembers (r : Roster) : IdSet :=
  match r.secondaryCandidate with
  | some candidate => r.aliveSecondaries.insert candidate
  | none => r.aliveSecondaries

/-- The primary and the secondaries of every kind. -/
def members (r : Roster) : IdSet :=
  r.allSecondaries.insert r.primary

/-- The members other than `me`. -/
def peers (r : Roster) (me : InstanceId) : IdSet :=
  r.members.erase me

/-- The number of roles that are filled. -/
def size (r : Roster) : Nat :=
  1 + r.secondaries.size + r.arbiters.size + r.inactive.size + r.joining.size

/-- The number of roles that are filled with members in use. -/
def aliveSize (r : Roster) : Nat :=
  1 + r.secondaries.size + r.arbiters.size + r.joining.size

/-- The instance holds a role or is registered to replace a member. -/
def contains (r : Roster) (id : InstanceId) : Bool :=
  r.primary = id || r.isSecondaryOfAnyKind id || r.secondaryCandidate = some id

/-- The instance is a secondary, a joining secondary or an arbiter. -/
def isAliveSecondary (r : Roster) (id : InstanceId) : Bool :=
  id ∈ r.secondaries || id ∈ r.joining || id ∈ r.arbiters

/-- There is room for another joining secondary: secondaries are missing and no member joins. -/
def allowsJoining (r : Roster) (totalSecondaries : Nat) : Bool :=
  r.secondaries.size < totalSecondaries && r.joining.isEmpty

/-- The roster has the secondaries that a volume type asks for. -/
def hasAllSecondaries (r : Roster) (v : VolumeType) : Bool :=
  r.secondaries.size = v.shape.secondaries.toNat

/-- The roster without temporary primary and candidates. -/
def cleared (r : Roster) : Roster :=
  { r with tempPrimary := none, primaryCandidate := none, secondaryCandidate := none }

/-- No other member is there to adopt the roster. -/
def isAlone (r : Roster) : Bool :=
  r.secondaries.isEmpty && r.arbiters.isEmpty && r.joining.isEmpty

end Roster

end ReplicaQuorum
