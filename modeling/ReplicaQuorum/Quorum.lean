import ReplicaQuorum.Word

/-!
# Write quorum

The primary always counts as one vote, so the other members have to supply one acknowledgement less
than the write quorum. Evidence is taken in strict order: secondaries, then joining secondaries,
then arbiters, and a weaker role is consulted only when the stronger one is exhausted.
-/

namespace ReplicaQuorum

/-- The number of members in each role besides the primary that takes part. -/
structure RoleCounts where
  secondaries : UInt32 := 0
  joining : UInt32 := 0
  arbiters : UInt32 := 0
deriving DecidableEq, Repr

/-- The difference of two counts, or zero if there is none. -/
def sub32 (a b : UInt32) : UInt32 :=
  if b ≤ a then a - b else 0

namespace RoleCounts

/-- The members that are left when the `bad` ones are taken away. -/
def remainingAfter (total bad : RoleCounts) : RoleCounts where
  secondaries := sub32 total.secondaries bad.secondaries
  joining := sub32 total.joining bad.joining
  arbiters := sub32 total.arbiters bad.arbiters

end RoleCounts

/-- The acknowledgements of `good` members satisfy the write quorum, where `total` members of each
role were asked. -/
def checkWriteQuorum (quorum : UInt32) (total good : RoleCounts) : Except Overflow Bool :=
  let needed := sub32 quorum 1
  if good.secondaries < min needed total.secondaries then .ok false
  else if needed ≤ good.secondaries then .ok true
  else if good.joining < min (needed - good.secondaries) total.joining then .ok false
  else do
    let data ← add32 good.secondaries good.joining
    if needed ≤ data then .ok true
    else do
      let votes ← add32 data good.arbiters
      .ok (decide (needed ≤ votes))

/-- The failures of `bad` members put the write quorum out of reach. -/
def checkBadWriteQuorum (quorum : UInt32) (total bad : RoleCounts) : Except Overflow Bool :=
  (checkWriteQuorum quorum total (total.remainingAfter bad)).map not

end ReplicaQuorum
