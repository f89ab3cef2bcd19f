import ReplicaQuorum.Error
import ReplicaQuorum.Form.Classify
import ReplicaQuorum.Quorum

/-!
# Broadcasts

The members that a write is sent to, the quorum checks over them, and the form of a replica set.
-/

namespace ReplicaQuorum

namespace Roster

/-- The members in each role that a write is sent to. A temporary primary takes the primary's place
and does not count as a secondary. -/
def broadcastCounts (r : Roster) : RoleCounts where
  secondaries := UInt32.ofNat (r.secondaries.size - r.tempPrimary.isSome.toNat)
  joining := UInt32.ofNat r.joining.size
  arbiters := UInt32.ofNat r.arbiters.size

/-- The good answers complete a write. -/
def completesWrite (r : Roster) (quorum : UInt32) (good : RoleCounts) : Except Overflow Bool :=
  checkWriteQuorum quorum r.broadcastCounts good

/-- The failures make a write impossible, should everybody else answer well. -/
def defeatsWrite (r : Roster) (quorum : UInt32) (bad : RoleCounts) : Except Overflow Bool :=
  checkBadWriteQuorum quorum r.broadcastCounts bad

/-- The form of a roster under a volume type, if the volume type can hold it. -/
def form? (r : Roster) (v : VolumeType) : Option Form :=
  v.classify r.secondaries.size r.joining.size r.arbiters.size r.inactive.size

end Roster

/-- The form of a replica set under a volume type. -/
def ReplicaSet.form (m : ReplicaSet) (v : VolumeType) : Except MembershipError Form :=
  match m.form? v with
  | some form => .ok form
  | none => .error (.noForm v m)

end ReplicaQuorum
