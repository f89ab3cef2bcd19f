import ReplicaQuorum.Error
import ReplicaQuorum.Journal.Logged

/-!
# Admission

Whether an instance may move on to a higher replica set. A replica set that has the instance is
always admitted. One that leaves it out is admitted only while it lacks members: a full one means
that the instance was replaced.
-/

namespace ReplicaQuorum.ReplicaSet

/-- The notice that a full replica set leaves the instance out. -/
def replacedNotice (higher current : ReplicaSet) (me : InstanceId) : Notice :=
  Notice.ofEvent .error .higherMembershipRefused
    [("instance", toString me), ("current", current.text), ("higher", higher.text),
     ("reason", "full membership without me")]

/-- The instance `me` may move from one replica set to a higher one, where a complete replica set
has `total` members. -/
def admits (higher current : ReplicaSet) (me : InstanceId) (total : Nat) :
    Logged (Except MembershipError Bool) :=
  if total = 0 then ⟨.error .noMembers, []⟩
  else if !higher.contains me && higher.aliveSize = total then
    ⟨.ok false, [higher.replacedNotice current me]⟩
  else ⟨.ok true, []⟩

end ReplicaQuorum.ReplicaSet
