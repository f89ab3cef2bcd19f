import ReplicaQuorum.Error

/-!
# Comparing replica sets

Replica sets of one segment are ordered by their versions. Two different rosters at one version mean
that something went wrong, and there is no order between them.
-/

namespace ReplicaQuorum.ReplicaSet

/-- How a replica set stands to another one of the same segment. -/
def compareTo (m other : ReplicaSet) : Except MembershipError Ordering :=
  if m.toRoster = other.toRoster then .ok .eq
  else
    match m.version.compare other.version with
    | .eq => .error (.sameVersion m other)
    | order => .ok order

/-- How the versions stand to each other. -/
def compareVersion (m other : ReplicaSet) : Ordering :=
  m.version.compare other.version

/-- How two words stand to each other. -/
def compareWords (a b : UInt64) : Ordering :=
  if a < b then .lt else if a = b then .eq else .gt

/-- How the epochs stand to each other. -/
def compareEpoch (m other : ReplicaSet) : Ordering :=
  compareWords m.version.epoch other.version.epoch

/-- How the generations stand to each other, whatever the epochs. -/
def compareGeneration (m other : ReplicaSet) : Ordering :=
  compareWords m.version.generation other.version.generation

/-- An earlier generation of the same epoch. -/
def isEarlierInEpoch (m other : ReplicaSet) : Bool :=
  m.version.epoch = other.version.epoch && m.version.generation < other.version.generation

/-- A later generation of the same epoch. -/
def isLaterInEpoch (m other : ReplicaSet) : Bool :=
  other.isEarlierInEpoch m

end ReplicaQuorum.ReplicaSet
