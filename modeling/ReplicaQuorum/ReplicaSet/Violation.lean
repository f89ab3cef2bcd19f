import ReplicaQuorum.ReplicaSet.Roster

/-!
# Violations

What keeps a roster from being well formed. The roles are looked at in a fixed order, so a roster
has one violation that is reported first.
-/

namespace ReplicaQuorum

/-- What keeps a roster from being well formed. -/
inductive Violation where
  | containsPrimary (role : Role) (primary : InstanceId)
  | inBoth (id : InstanceId) (left right : Role)
  | candidateNotSecondary (id : InstanceId)
  | candidateIsMember (id : InstanceId)
deriving DecidableEq, Repr

/-- What is reported of a violation. -/
def Violation.message : Violation → String
  | .containsPrimary role primary => s!"{role.plural} contain the primary {primary}"
  | .inBoth id left right => s!"{id} is in both {left.plural} and {right.plural}"
  | .candidateNotSecondary id => s!"primary candidate {id} is not a secondary"
  | .candidateIsMember id => s!"secondary candidate {id} is already a member"

namespace Roster

/-- The primary in a role that a set of members holds. -/
def primaryOverlap? (r : Roster) : Option Violation :=
  (Role.all.find? fun role => r.primary ∈ r.inRole role).map
    fun role => .containsPrimary role r.primary

/-- The first member that a role shares with one of the roles after it. -/
def overlapAfter? (r : Roster) (left : Role) (rights : List Role) : Option Violation :=
  rights.findSome? fun right =>
    ((r.inRole left).firstCommon (r.inRole right)).map fun id => .inBoth id left right

/-- The first member that two of the roles share. -/
def overlap? (r : Roster) : List Role → Option Violation
  | [] => none
  | left :: rights => (r.overlapAfter? left rights).or (r.overlap? rights)

/-- The primary candidate, if it is no secondary. -/
def strayPrimaryCandidate? (r : Roster) : Option Violation :=
  (r.primaryCandidate.filter fun id => id ∉ r.secondaries).map .candidateNotSecondary

/-- The secondary candidate, if it is a member. -/
def knownSecondaryCandidate? (r : Roster) : Option Violation :=
  (r.secondaryCandidate.filter fun id => id = r.primary || r.isSecondaryOfAnyKind id).map
    .candidateIsMember

/-- The violation of a roster that is reported, if it has one. -/
def violation? (r : Roster) : Option Violation :=
  r.primaryOverlap?.or <| (r.overlap? Role.all).or <|
    r.strayPrimaryCandidate?.or r.knownSecondaryCandidate?

end Roster

end ReplicaQuorum
