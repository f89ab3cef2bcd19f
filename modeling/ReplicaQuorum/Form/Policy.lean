import ReplicaQuorum.Form
import ReplicaQuorum.Form.Rule

/-!
# Policies

The quorum policy of each form: when a write or a read has succeeded, when one under way can no
longer succeed and has to be sent again, when known disconnections decide it beforehand, and what
the layout allows in a failover. A policy states where its form deviates from the defaults.
-/

namespace ReplicaQuorum

/-- The behaviour of a form. -/
structure Policy where
  /-- A create or a commit has succeeded, by good answers. -/
  writeMerge : Rule := .exactly [.primary, .secondary, .joining] .totalWrite
  /-- A read has succeeded, by good readers. -/
  readMerge : Rule := .never
  /-- A write has to be sent again, by members still alive. -/
  writeResend : Rule := .never
  /-- A read has to be sent again, by members still alive. -/
  readResend : Rule := .never
  /-- A read that goes on is confirmed by the primary alone. -/
  trimsChecks : Bool := false
  /-- A write is decided beforehand, by disconnected members. -/
  writeDone : Rule := .never
  /-- A read is decided beforehand, by disconnected members. -/
  readDone : Rule := .never
  /-- Enough secondaries remain to elect a primary if this one is lost. -/
  canElectPrimary : Bool := false
  /-- Only the primary may serve reads. -/
  primaryOnly : Bool := false
  /-- A member may become primary while one secondary is out of its reach. -/
  safeWithSecondaryMissing : Bool := true
  /-- The number of skipped secondaries from which on source volume data is skipped. -/
  skipThreshold : UInt32 := 1
deriving DecidableEq, Repr

namespace Rule

/-- No member of the round is a primary. -/
def primaryDown : Rule := is .primaryDown

/-- Some member of the round is a primary. -/
def primaryUp : Rule := not primaryDown

/-- The primary is counted. -/
def primaryAlive : Rule := atLeast [.primary] (.literal 1)

/-- The primary is not counted. -/
def primaryGone : Rule := fewer [.primary] (.literal 1)

/-- A member of the round is a primary, and it is counted. -/
def primaryUpAndAlive : Rule := both primaryUp primaryAlive

/-- Behind a primary that is down, a secondary with data and a quorum of secondaries and arbiters;
beside the primary, two of them. -/
def secondaryArbiterRead : Rule :=
  when primaryDown
    (both (atLeast [.fetch] (.literal 1)) (atLeast [.secondary, .arbiter] .quorum))
    (both primaryAlive (atLeast [.secondary, .arbiter] (.literal 2)))

/-- Behind a primary that is down, a secondary with data and two of the joining secondaries and
arbiters; beside the primary, two other members. -/
def joiningArbiterRead : Rule :=
  when primaryDown
    (both (atLeast [.fetch] (.literal 1)) (atLeast [.joining, .arbiter] (.literal 2)))
    (both primaryAlive (atLeast [.secondary, .joining, .arbiter] (.literal 2)))

/-- The primary and two of the joining secondaries and arbiters. -/
def primaryAndTwoJoiningArbiters : Rule :=
  both primaryAlive (atLeast [.joining, .arbiter] (.literal 2))

/-- The primary and two of the secondaries and arbiters. -/
def primaryAndTwoSecondaryArbiters : Rule :=
  both primaryAlive (atLeast [.secondary, .arbiter] (.literal 2))

/-- The primary is gone, or every secondary is. -/
def goneOrNoSecondary : Rule := either primaryGone (fewer [.secondary] (.literal 1))

/-- The primary is gone, or every joining secondary is. -/
def goneOrNoJoining : Rule := either primaryGone (fewer [.joining] (.literal 1))

/-- The primary is gone, or fewer than two joining secondaries and arbiters are left. -/
def goneOrFewJoiningArbiters : Rule :=
  either primaryGone (fewer [.joining, .arbiter] (.literal 2))

/-- The primary is gone, or fewer than two secondaries and arbiters are left. -/
def goneOrFewSecondaryArbiters : Rule :=
  either primaryGone (fewer [.secondary, .arbiter] (.literal 2))

/-- The primary is gone, or fewer than two arbiters are left. -/
def goneOrFewArbiters : Rule := either primaryGone (fewer [.arbiter] (.literal 2))

end Rule

namespace Policy

open Rule

/-- The missing members make every write and every read fail for now. -/
def alwaysResend : Policy where
  writeResend := always
  readResend := always

/-- The primary beside a joining secondary, and nothing else to use. -/
def primaryWithJoining : Policy where
  writeMerge :=
    both primaryUp
      (both primaryAlive (either (is .joiningDown) (atLeast [.joining] (.literal 1))))
  readMerge := primaryAlive
  writeResend := primaryGone
  readResend := primaryGone
  trimsChecks := true
  writeDone := primaryAlive
  readDone := primaryAlive

/-- The primary beside one secondary, with no quorum to spare. -/
def primaryWithSecondary : Policy where
  writeMerge :=
    both primaryUp
      (both primaryAlive (either (is .secondaryDown) (atLeast [.secondary] (.literal 1))))
  readMerge := primaryUpAndAlive
  writeResend := primaryGone
  readResend := primaryGone
  trimsChecks := true
  writeDone := primaryAlive
  readDone := primaryAlive

/-- The primary as the only member that holds data. -/
def lonePrimary : Policy where
  writeMerge := primaryUpAndAlive
  readMerge := primaryAlive
  writeResend := primaryGone
  readResend := primaryGone
  trimsChecks := true
  writeDone := primaryAlive
  readDone := primaryAlive
  primaryOnly := true

/-- The primary and two secondaries. -/
def pss : Policy where
  writeMerge :=
    when primaryDown (atLeast [.secondary] .quorum)
      (both primaryAlive (atLeast [.secondary] (.literal 1)))
  readMerge :=
    when primaryDown
      (when (is .metReadDownSecondary) (atLeast [.secondary] (.literal 1))
        (both (atLeast [.fetch] (.literal 1)) (atLeast [.secondary] .quorum)))
      (both primaryAlive (atLeast [.secondary] (.literal 1)))
  writeResend :=
    when primaryGone (fewer [.secondary] .quorum) (fewer [.secondary] (.literal 1))
  readResend :=
    when primaryGone
      (when (is .metReadDownSecondary) (fewer [.secondary] (.literal 1))
        (fewer [.secondary] .quorum))
      (fewer [.secondary] (.literal 1))
  writeDone := atLeast [.primary, .secondary] .quorum
  readDone := atLeast [.primary, .secondary] .quorum
  canElectPrimary := true
  skipThreshold := 2

/-- The primary, a secondary and a joining secondary. -/
def psj : Policy where
  writeMerge :=
    when primaryDown (atLeast [.secondary, .joining] .quorum)
      (both primaryAlive
        (when (is .secondaryDown) (atLeast [.joining] (.literal 1))
          (atLeast [.secondary] (.literal 1))))
  readMerge :=
    when primaryDown (atLeast [.secondary, .joining] .quorum)
      (both primaryAlive (atLeast [.secondary, .joining] (.literal 1)))
  writeResend :=
    when primaryGone (fewer [.secondary, .joining] .quorum)
      (fewer [.secondary, .joining] (.literal 1))
  readResend :=
    when primaryGone (fewer [.secondary, .joining] .quorum)
      (fewer [.secondary, .joining] (.literal 1))
  writeDone := atLeast [.primary, .secondary, .joining] .quorum
  readDone := atLeast [.primary, .secondary, .joining] .quorum
  canElectPrimary := true
  skipThreshold := 2

/-- The primary and a secondary beside an inactive member. -/
def psi : Policy where
  writeMerge :=
    both primaryUp (both primaryAlive (atLeast [.secondary] (.literal 1)))
  readMerge := primaryUpAndAlive
  writeResend := fewer [.primary, .secondary] .quorum
  readResend := primaryGone
  trimsChecks := true
  writeDone := atLeast [.primary, .secondary] (.literal 1)
  readDone := atLeast [.primary] (.literal 1)
  canElectPrimary := true

/-- The primary and two joining secondaries: no write can succeed. -/
def pjj : Policy where
  writeMerge := never
  readMerge := primaryAlive
  writeResend := always
  readResend := primaryGone
  trimsChecks := true
  writeDone := always
  readDone := primaryAlive

/-- The primary, a secondary and an arbiter. -/
def psa : Policy where
  writeMerge :=
    when primaryDown (atLeast [.secondary] (.literal 1))
      (both primaryAlive (either (is .secondaryDown) (atLeast [.secondary] (.literal 1))))
  readMerge :=
    when primaryDown (atLeast [.secondary, .arbiter] .quorum)
      (both primaryAlive (atLeast [.primary, .secondary, .arbiter] .quorum))
  writeResend := fewer [.primary, .secondary] (.literal 1)
  readResend :=
    when primaryDown (fewer [.secondary, .arbiter] .quorum)
      (either primaryGone (fewer [.primary, .secondary, .arbiter] .quorum))
  writeDone := atLeast [.primary, .secondary] .quorum
  readDone := atLeast [.primary, .secondary, .arbiter] .quorum
  canElectPrimary := true
  safeWithSecondaryMissing := false

/-- The primary, two secondaries and two arbiters. -/
def pssaa : Policy where
  readMerge := secondaryArbiterRead
  writeResend := both primaryGone (fewer [.secondary] (.literal 1))
  readResend :=
    when primaryGone (fewer [.secondary, .arbiter] .quorum)
      (fewer [.secondary, .arbiter] (.literal 2))
  writeDone := atLeast [.primary, .secondary, .arbiter] .quorum
  readDone := atLeast [.primary, .secondary, .arbiter] .quorum
  canElectPrimary := true
  safeWithSecondaryMissing := false

/-- The primary, two secondaries and an arbiter. -/
def pssai : Policy where
  readMerge := secondaryArbiterRead
  writeResend :=
    when primaryGone (fewer [.secondary] (.literal 2)) (fewer [.secondary] (.literal 1))
  readResend := pssaa.readResend
  writeDone := atLeast [.primary, .secondary, .arbiter] (.quorumLess 1)
  readDone := atLeast [.primary, .secondary, .arbiter] (.quorumLess 1)
  canElectPrimary := true

/-- The primary and two secondaries, without arbiters. -/
def pssii : Policy where
  readMerge := both primaryUp (both primaryAlive (atLeast [.secondary] (.literal 2)))
  writeResend := either primaryGone (fewer [.secondary] (.literal 2))
  readResend := either primaryGone (fewer [.secondary] (.literal 2))
  writeDone := atLeast [.primary, .secondary] (.literal 1)
  readDone := atLeast [.primary, .secondary, .arbiter] (.literal 1)
  canElectPrimary := true

/-- The primary, a secondary, a joining secondary and two arbiters. -/
def psjaa : Policy where
  readMerge := joiningArbiterRead
  writeResend := both primaryGone (fewer [.secondary] (.literal 1))
  readResend :=
    when primaryGone
      (either (fewer [.secondary] (.literal 1)) (fewer [.joining, .arbiter] (.literal 2)))
      (fewer [.secondary, .joining, .arbiter] (.literal 2))
  writeDone :=
    either (atLeast [.primary, .secondary, .joining, .arbiter] .quorum)
      (atLeast [.primary, .secondary] (.literal 2))
  readDone :=
    either (atLeast [.primary, .secondary, .joining, .arbiter] .quorum)
      (atLeast [.primary, .secondary] (.literal 2))
  canElectPrimary := true

/-- The primary, a secondary, a joining secondary and an arbiter. -/
def psjai : Policy where
  readMerge := joiningArbiterRead
  writeResend :=
    when primaryGone
      (either (fewer [.secondary] (.literal 1)) (fewer [.joining] (.literal 1)))
      (fewer [.secondary, .joining] (.literal 1))
  readResend :=
    when primaryGone
      (either (fewer [.secondary] (.literal 1)) (fewer [.joining, .arbiter] (.literal 2)))
      (both (atLeast [.secondary, .joining, .arbiter] (.literal 1))
        (fewer [.secondary, .joining, .arbiter] (.literal 2)))
  writeDone := atLeast [.primary, .secondary, .joining, .arbiter] (.quorumLess 1)
  readDone := atLeast [.primary, .secondary, .joining, .arbiter] (.quorumLess 1)
  canElectPrimary := true

/-- The primary, a secondary and a joining secondary, without arbiters. -/
def psjii : Policy where
  readMerge := exactly [.primary, .secondary, .joining] .quorum
  writeResend := either primaryGone (fewer [.secondary, .joining] (.literal 2))
  readResend := either primaryGone (fewer [.secondary, .joining] (.literal 2))
  writeDone := atLeast [.primary, .secondary, .joining] (.literal 1)
  readDone := atLeast [.primary, .secondary, .joining] (.literal 1)
  canElectPrimary := true

/-- The primary, a secondary, an inactive member and two arbiters. -/
def psiaa : Policy where
  readMerge := secondaryArbiterRead
  writeResend := fewer [.primary, .secondary] (.literal 1)
  readResend :=
    when primaryGone
      (either (fewer [.secondary] (.literal 1)) (fewer [.arbiter] (.literal 2)))
      (fewer [.secondary, .arbiter] (.literal 2))
  writeDone := atLeast [.primary, .secondary, .arbiter] (.quorumLess 1)
  readDone := atLeast [.primary, .secondary, .arbiter] (.quorumLess 1)
  canElectPrimary := true

/-- The primary, a secondary and an arbiter out of four or five members. -/
def oneSecondaryOneArbiter : Policy where
  readMerge := primaryAndTwoSecondaryArbiters
  writeResend := goneOrNoSecondary
  readResend := goneOrFewSecondaryArbiters
  writeDone := atLeast [.primary, .secondary, .arbiter] (.literal 1)
  readDone := atLeast [.primary, .secondary, .arbiter] (.literal 1)
  canElectPrimary := true

/-- The primary, two joining secondaries and two arbiters. -/
def pjjaa : Policy where
  readMerge := both primaryUp primaryAndTwoJoiningArbiters
  writeResend := goneOrNoJoining
  readResend := goneOrFewJoiningArbiters
  writeDone := either primaryAlive (atLeast [.joining, .arbiter] (.literal 3))
  readDone := either primaryAlive (atLeast [.joining, .arbiter] (.literal 3))

/-- The primary and three joining secondaries and arbiters, of both kinds. -/
def threeJoiningArbiters : Policy where
  readMerge := primaryAndTwoJoiningArbiters
  writeResend := goneOrNoJoining
  readResend := goneOrFewJoiningArbiters
  writeDone := either primaryAlive (atLeast [.joining, .arbiter] (.literal 2))
  readDone := either primaryAlive (atLeast [.joining, .arbiter] (.literal 2))

/-- The primary and two joining secondaries, without arbiters. -/
def pjjii : Policy where
  readMerge := both primaryAlive (atLeast [.joining] (.literal 2))
  writeResend := either primaryGone (fewer [.joining] (.literal 2))
  readResend := either primaryGone (fewer [.joining] (.literal 2))
  writeDone := atLeast [.primary, .joining] (.literal 1)
  readDone := atLeast [.primary, .joining] (.literal 1)

/-- The primary, a joining secondary and an arbiter. -/
def oneJoiningOneArbiter : Policy where
  readMerge := primaryAndTwoJoiningArbiters
  writeResend := goneOrNoJoining
  readResend := goneOrFewJoiningArbiters
  writeDone := atLeast [.primary, .joining, .arbiter] (.literal 1)
  readDone := atLeast [.primary, .joining, .arbiter] (.literal 1)

/-- The primary, two arbiters and two inactive members. -/
def piiaa : Policy where
  readMerge := primaryAndTwoJoiningArbiters
  writeResend := primaryGone
  readResend := goneOrFewArbiters
  writeDone := atLeast [.primary, .arbiter] (.literal 1)
  readDone := atLeast [.primary, .arbiter] (.literal 1)
  primaryOnly := true

/-- The primary, a secondary and two arbiters out of four members. -/
def psaa : Policy where
  readMerge :=
    when primaryDown (atLeast [.fetch, .arbiter] .quorum) primaryAndTwoSecondaryArbiters
  writeResend := both primaryGone (fewer [.secondary] (.literal 1))
  readResend :=
    when primaryGone
      (either (fewer [.secondary] (.literal 1)) (fewer [.arbiter] (.literal 2)))
      (fewer [.secondary, .arbiter] (.literal 2))
  writeDone := atLeast [.primary, .secondary, .arbiter] (.quorumLess 1)
  readDone := atLeast [.primary, .secondary, .arbiter] (.quorumLess 1)
  canElectPrimary := true

/-- The primary and two arbiters out of three or four members. -/
def twoArbiters : Policy where
  readMerge := both primaryAlive (atLeast [.arbiter] (.literal 2))
  writeResend := primaryGone
  readResend := goneOrFewArbiters
  writeDone := atLeast [.primary, .arbiter] (.literal 1)
  readDone := atLeast [.primary, .arbiter] (.literal 1)
  primaryOnly := true

/-- The primary, a joining secondary and two arbiters out of four members. -/
def pjaa : Policy := { threeJoiningArbiters with writeResend := primaryGone }

end Policy

/-- The policy of a form. -/
def Form.policy : Form → Policy
  | pss => Policy.pss
  | psj => Policy.psj
  | psi => Policy.psi
  | pji | pj | pja | tpj => Policy.primaryWithJoining
  | pjj => Policy.pjj
  | pii | pia | tpi => Policy.lonePrimary
  | ps | tps => Policy.primaryWithSecondary
  | pi => { Policy.lonePrimary with trimsChecks := false }
  | psa => Policy.psa
  | pa => { Policy.lonePrimary with readMerge := .primaryUpAndAlive }
  | pssaa => Policy.pssaa
  | pssai => Policy.pssai
  | pssii => Policy.pssii
  | psjaa => Policy.psjaa
  | psjai => Policy.psjai
  | psjii => Policy.psjii
  | psiaa => Policy.psiaa
  | psiai | psai => Policy.oneSecondaryOneArbiter
  | pjjaa => Policy.pjjaa
  | pjjai | pjiaa => Policy.threeJoiningArbiters
  | pjjii => Policy.pjjii
  | pjiai | pjai => Policy.oneJoiningOneArbiter
  | piiaa => Policy.piiaa
  | psaa => Policy.psaa
  | pjaa => Policy.pjaa
  | piaa | paa => Policy.twoArbiters
  | psiii | pjiii | piiai | piiii | psii | piai | piii | pjii => Policy.alwaysResend

end ReplicaQuorum
