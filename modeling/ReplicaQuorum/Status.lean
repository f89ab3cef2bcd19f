/-!
# Member statuses

The liveness of a member while requests are in flight. A status belongs to a role family, or to none
for members that take no part, and is up or down for reads and for writes. Within a family a member
only ever loses axes; `merge` joins what two observers saw of the same member.
-/

namespace ReplicaQuorum

/-- The liveness status of a member. -/
inductive Status where
  | primary
  | secondary
  | joiningSecondary
  | arbiter
  | primaryDown
  | secondaryDown
  | joiningSecondaryDown
  | arbiterDown
  | inactiveSecondary
  | externalMember
  /-- A secondary that acts as primary while the formal primary is unusable. -/
  | tempPrimary
  | unstablePrimary
  /-- A secondary that still takes writes but must not serve reads. -/
  | secondaryReadDown
deriving DecidableEq, Repr

/-- The role that statuses of one member may share. -/
inductive Family where
  | primary
  | secondary
  | joiningSecondary
  | arbiter
deriving DecidableEq, Repr

namespace Family

/-- The name of the family. -/
def name : Family → String
  | primary => "Primary"
  | secondary => "Secondary"
  | joiningSecondary => "JoiningSecondary"
  | arbiter => "Arbiter"

/-- The status of a member of the family that lost nothing. -/
def live : Family → Status
  | primary => .primary
  | secondary => .secondary
  | joiningSecondary => .joiningSecondary
  | arbiter => .arbiter

/-- The status of a member of the family that is down for reads and writes. -/
def down : Family → Status
  | primary => .primaryDown
  | secondary => .secondaryDown
  | joiningSecondary => .joiningSecondaryDown
  | arbiter => .arbiterDown

end Family

namespace Status

/-- All statuses in the order of their wire values. -/
def all : List Status :=
  [primary, secondary, joiningSecondary, arbiter, primaryDown, secondaryDown,
   joiningSecondaryDown, arbiterDown, inactiveSecondary, externalMember, tempPrimary,
   unstablePrimary, secondaryReadDown]

/-- The value of the status on the wire. -/
def value : Status → UInt8
  | primary => 1
  | secondary => 2
  | joiningSecondary => 3
  | arbiter => 4
  | primaryDown => 5
  | secondaryDown => 6
  | joiningSecondaryDown => 7
  | arbiterDown => 8
  | inactiveSecondary => 9
  | externalMember => 10
  | tempPrimary => 11
  | unstablePrimary => 12
  | secondaryReadDown => 13

/-- The name of the status. -/
def name : Status → String
  | primary => "Primary"
  | secondary => "Secondary"
  | joiningSecondary => "JoiningSecondary"
  | arbiter => "Arbiter"
  | primaryDown => "PrimaryDown"
  | secondaryDown => "SecondaryDown"
  | joiningSecondaryDown => "JoiningSecondaryDown"
  | arbiterDown => "ArbiterDown"
  | inactiveSecondary => "InactiveSecondary"
  | externalMember => "ExternalMember"
  | tempPrimary => "TempPrimary"
  | unstablePrimary => "UnstablePrimary"
  | secondaryReadDown => "SecondaryReadDown"

/-- The status with a wire value. -/
def ofValue? (value : Nat) : Option Status :=
  all.find? fun s => s.value.toNat = value

/-- The status with a name. -/
def ofName? (name : String) : Option Status :=
  all.find? fun s => s.name = name

/-- The role family of a status; inactive and external members have none. -/
def family : Status → Option Family
  | primary | primaryDown | unstablePrimary => some .primary
  | secondary | secondaryDown | tempPrimary | secondaryReadDown => some .secondary
  | joiningSecondary | joiningSecondaryDown => some .joiningSecondary
  | arbiter | arbiterDown => some .arbiter
  | inactiveSecondary | externalMember => none

/-- The member takes no writes; such a member serves no reads either. -/
def writeDown : Status → Bool
  | primaryDown | secondaryDown | joiningSecondaryDown | arbiterDown => true
  | inactiveSecondary | externalMember => true
  | _ => false

/-- The member serves no reads. -/
def readDown (s : Status) : Bool :=
  s.writeDown || s = secondaryReadDown

/-- The member is unusable for reads and for writes. -/
def isDown (s : Status) : Bool :=
  s.writeDown

/-- The number of axes that are down. -/
def downCount (s : Status) : Nat :=
  s.readDown.toNat + s.writeDown.toNat

/-- The status stands in for `other` where roles are compared. A live status stands for itself, a
fully down one only for the live status of its family, a degraded one for itself and for that. -/
def standsFor (s other : Status) : Bool :=
  match s with
  | primaryDown => other = primary
  | secondaryDown => other = secondary
  | joiningSecondaryDown => other = joiningSecondary
  | arbiterDown => other = arbiter
  | tempPrimary => other = tempPrimary || other = secondary
  | unstablePrimary => other = unstablePrimary || other = primary
  | secondaryReadDown => other = secondaryReadDown || other = secondary
  | s => s = other

/-- Two statuses of one role family. -/
def sameRole (s next : Status) : Bool :=
  match s.family, next.family with
  | some mine, some theirs => mine = theirs
  | _, _ => false

/-- A member may move from `s` to `next`: within the family, and with more axes down, or with the
same number of axes down and all of them up or all down. -/
def canMoveTo (s next : Status) : Bool :=
  s.sameRole next &&
    (decide (s.downCount < next.downCount)
      || s.downCount = next.downCount && (s.downCount = 0 || s.downCount = 2))

/-- The join of two statuses seen of one member: the one with more axes down, of two live ones the
degraded one, and fully down if each has an axis down that the other has up. Statuses of different
families leave the first one as it is. -/
def merge (s next : Status) : Status :=
  match s.family with
  | none => s
  | some family =>
    if next.family ≠ some family ∨ s = next ∨ s.downCount = 2 then s
    else if s.downCount < next.downCount then next
    else if next.downCount < s.downCount then s
    else if s.downCount = 0 then (if s = family.live then next else s)
    else if s.readDown && next.readDown || s.writeDown && next.writeDown then s
    else family.down

end Status

end ReplicaQuorum
