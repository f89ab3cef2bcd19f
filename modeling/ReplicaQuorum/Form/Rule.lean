import ReplicaQuorum.Word

/-!
# Quorum rules

A rule is a small expression over the role counts and flags of a round. One kind of tally serves
every question: a merge counts good answers, a progress check counts the members still alive, and
the question whether a round is already decided counts the members known to be disconnected.

Rules are evaluated from left to right and only as far as needed; a sum that does not fit its word
matters only where it is evaluated.
-/

namespace ReplicaQuorum

/-- A counted quantity. -/
inductive Term where
  | primary
  | secondary
  | joining
  | arbiter
  /-- The secondaries that returned data for a read. -/
  | fetch
deriving DecidableEq, Repr

/-- The right-hand side of a comparison. -/
inductive Bound where
  | literal (n : UInt32)
  /-- The write quorum of the volume. -/
  | quorum
  /-- The write quorum less a constant, at least zero. -/
  | quorumLess (n : UInt32)
  /-- The members that the round asked to write. -/
  | totalWrite
deriving DecidableEq, Repr

/-- An observation about a whole round. -/
inductive Flag where
  | primaryDown
  | secondaryDown
  | joiningDown
  | metReadDownSecondary
deriving DecidableEq, Repr

/-- A condition on a tally. -/
inductive Rule where
  | always
  | never
  | is (flag : Flag)
  | atLeast (terms : List Term) (bound : Bound)
  | fewer (terms : List Term) (bound : Bound)
  | exactly (terms : List Term) (bound : Bound)
  | not (rule : Rule)
  | both (first second : Rule)
  | either (first second : Rule)
  /-- One rule where a condition holds and another where it does not. -/
  | when (condition yes no : Rule)
deriving DecidableEq, Repr

/-- The counts and flags a rule is evaluated against. -/
structure Tally where
  writeQuorum : UInt32
  primary : UInt32 := 0
  secondary : UInt32 := 0
  joining : UInt32 := 0
  arbiter : UInt32 := 0
  fetch : UInt32 := 0
  totalWrite : UInt32 := 0
  primaryDown : Bool := false
  secondaryDown : Bool := false
  joiningDown : Bool := false
  metReadDownSecondary : Bool := false
deriving DecidableEq, Repr

namespace Tally

/-- The count of a term. -/
def term (t : Tally) : Term → UInt32
  | .primary => t.primary
  | .secondary => t.secondary
  | .joining => t.joining
  | .arbiter => t.arbiter
  | .fetch => t.fetch

/-- The sum of the counts of some terms. -/
def sum (t : Tally) : List Term → Nat
  | [] => 0
  | term :: rest => (t.term term).toNat + t.sum rest

/-- The value of a bound. -/
def bound (t : Tally) : Bound → Nat
  | .literal n => n.toNat
  | .quorum => t.writeQuorum.toNat
  | .quorumLess n => t.writeQuorum.toNat - n.toNat
  | .totalWrite => t.totalWrite.toNat

/-- The value of a flag. -/
def flag (t : Tally) : Flag → Bool
  | .primaryDown => t.primaryDown
  | .secondaryDown => t.secondaryDown
  | .joiningDown => t.joiningDown
  | .metReadDownSecondary => t.metReadDownSecondary

/-- A comparison of a sum with a bound, if the sum fits a 32-bit word. -/
def compareSum (t : Tally) (terms : List Term) (test : Nat → Bool) : Except Overflow Bool :=
  if t.sum terms < UInt32.size then .ok (test (t.sum terms)) else .error .addition

end Tally

namespace Rule

/-- Whether a rule holds of a tally. -/
def holds (t : Tally) : Rule → Except Overflow Bool
  | always => .ok true
  | never => .ok false
  | is flag => .ok (t.flag flag)
  | atLeast terms bound => t.compareSum terms fun sum => decide (t.bound bound ≤ sum)
  | fewer terms bound => t.compareSum terms fun sum => decide (sum < t.bound bound)
  | exactly terms bound => t.compareSum terms fun sum => decide (sum = t.bound bound)
  | not rule => (rule.holds t).map Bool.not
  | both first second => do
    if ← first.holds t then second.holds t else .ok false
  | either first second => do
    if ← first.holds t then .ok true else second.holds t
  | when condition yes no => do
    if ← condition.holds t then yes.holds t else no.holds t

end Rule

end ReplicaQuorum
