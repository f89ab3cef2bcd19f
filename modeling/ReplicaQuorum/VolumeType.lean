import ReplicaQuorum.Word

/-!
# Volume types

A volume type fixes how many members a segment has, how many of them are secondaries, and the sizes
of the quorums for writes and for elections. The members that are neither the primary nor a
secondary are arbiters.
-/

namespace ReplicaQuorum

/-- The member layout and quorum sizes of a volume. -/
structure VolumeShape where
  members : UInt32
  secondaries : UInt32
  writeQuorum : UInt32
  votingQuorum : UInt32
deriving DecidableEq, Repr

namespace VolumeShape

/-- What keeps numbers from being a shape. -/
inductive Defect where
  | tooManySecondaries (secondaries members : UInt32)
  | writeBelowVoting (write voting : UInt32)
deriving DecidableEq, Repr

/-- What is reported of a defect. -/
def Defect.message : Defect → String
  | .tooManySecondaries secondaries members =>
    s!"{secondaries} secondaries do not fit in {members} members"
  | .writeBelowVoting write voting =>
    s!"write quorum {write} is less than voting quorum {voting}"

/-- The number of arbiters. -/
def arbiters (s : VolumeShape) : UInt32 :=
  s.members - s.secondaries - 1

/-- The shape with the given sizes. The primary and the secondaries have to fit, and a write quorum
is never smaller than the voting quorum. -/
def make (members secondaries write voting : UInt32) : Except (Fault Defect) VolumeShape := do
  let occupied ← Fault.ofChecked (add32 secondaries 1)
  if members < occupied then .error (.error (.tooManySecondaries secondaries members))
  else if write < voting then .error (.error (.writeBelowVoting write voting))
  else .ok ⟨members, secondaries, write, voting⟩

end VolumeShape

/-- The volume types that are supported. -/
inductive VolumeType where
  /-- A primary and two secondaries. -/
  | regular
  /-- A primary, one secondary and one arbiter. -/
  | small
  /-- A primary, two secondaries and two arbiters. -/
  | large
deriving DecidableEq, Repr

namespace VolumeType

/-- All volume types. -/
def all : List VolumeType := [regular, small, large]

/-- The name of the volume type. -/
def name : VolumeType → String
  | regular => "REGULAR"
  | small => "SMALL"
  | large => "LARGE"

/-- The shape of a volume of the type. -/
def shape : VolumeType → VolumeShape
  | regular => ⟨3, 2, 2, 2⟩
  | small => ⟨3, 1, 2, 2⟩
  | large => ⟨5, 2, 3, 3⟩

/-- The write quorum of a volume of the type. -/
def writeQuorum (v : VolumeType) : UInt32 :=
  v.shape.writeQuorum

/-- The members besides the primary that a volume of the type has room for. -/
def slots (v : VolumeType) : Nat :=
  v.shape.members.toNat - 1

end VolumeType

end ReplicaQuorum
