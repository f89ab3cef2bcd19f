import ReplicaQuorum.Form.Policy
import ReplicaQuorum.Journal.Logged
import ReplicaQuorum.Round
import ReplicaQuorum.VolumeType

/-!
# Verdicts

What the policy of a form says about a round: whether a write or a read has succeeded, whether one
under way has to be sent again, and whether it is decided beforehand. The verdicts are functions of
counts, of the round and of the write quorum of the volume.
-/

namespace ReplicaQuorum

namespace Tally

/-- The counts of each role beside a volume's write quorum. -/
def ofCounts (v : VolumeType) (primary secondary joining arbiter : UInt32) : Tally :=
  { writeQuorum := v.writeQuorum, primary, secondary, joining, arbiter }

/-- The tally with the flags and the write total of a round. -/
def observe (t : Tally) (r : Round) : Tally :=
  { t with
    totalWrite := r.totalWrite
    primaryDown := r.isDown .primary
    secondaryDown := r.isDown .secondary
    joiningDown := r.isDown .joiningSecondary
    metReadDownSecondary := r.metReadDownSecondary }

end Tally

namespace Form

/-- The notice of a write that is refused while no primary answers. -/
def writeRefused (f : Form) (r : Round) : Notice :=
  Notice.ofEvent .error .writeRefused
    [("form", f.name), ("request_id", r.request.text),
     ("reason", "primary down, remaining members cannot take the write")]

/-- A create or a commit has succeeded with the given good answers. -/
def mergeWrite (f : Form) (v : VolumeType) (primary secondaries joining : UInt32) (r : Round) :
    Logged (Except Overflow Bool) :=
  let tally := (Tally.ofCounts v primary secondaries joining 0).observe r
  match f.policy.writeMerge.holds tally with
  | .error o => ⟨.error o, []⟩
  | .ok true => ⟨.ok true, []⟩
  | .ok false => ⟨.ok false, if tally.primaryDown then [f.writeRefused r] else []⟩

/-- A read has succeeded with the given good readers. Secondaries count in full; the ones that
returned data count once more by themselves. -/
def mergeRead (f : Form) (v : VolumeType) (primary : UInt32) (secondaries : ReaderCounts)
    (joining arbiters : UInt32) (r : Round) : Except Overflow Bool := do
  let total ← secondaries.total
  let tally := Tally.ofCounts v primary total joining arbiters
  f.policy.readMerge.holds ({ tally with fetch := secondaries.fetch }.observe r)

/-- The notice that a request is to be sent again. -/
def resendDecided (f : Form) (kind : String) (t : Tally) (r : Round) : Notice :=
  let alive := s!"p={t.primary} s={t.secondary} j={t.joining} a={t.arbiter}"
  Notice.ofEvent .trace .resendDecided
    [("form", f.name), ("io", kind), ("request_id", r.request.text), ("alive", alive)]

/-- The round after a look at the members still alive during a write: it has to be sent again once
the quorum is out of reach. -/
def progressWrite (f : Form) (v : VolumeType) (primary secondaries joining : UInt32) (r : Round) :
    Logged (Except Overflow Round) :=
  let tally := (Tally.ofCounts v primary secondaries joining 0).observe r
  match f.policy.writeResend.holds tally with
  | .error o => ⟨.error o, []⟩
  | .ok true => ⟨.ok { r with resendDirectly := true }, [f.resendDecided "write" tally r]⟩
  | .ok false => ⟨.ok r, []⟩

/-- The round after a look at the members still alive during a read. Where the primary alone
confirms a read that goes on, nobody else is asked to. -/
def progressRead (f : Form) (v : VolumeType) (primary secondaries joining arbiters : UInt32)
    (r : Round) : Logged (Except Overflow Round) :=
  let tally := (Tally.ofCounts v primary secondaries joining arbiters).observe r
  match f.policy.readResend.holds tally with
  | .error o => ⟨.error o, []⟩
  | .ok true => ⟨.ok { r with resendDirectly := true }, [f.resendDecided "read" tally r]⟩
  | .ok false => ⟨.ok (if f.policy.trimsChecks then r.dropChecks else r), []⟩

/-- A write with the given members alive would go ahead. -/
def writable (f : Form) (v : VolumeType) (primary secondaries joining : UInt32) :
    Except Overflow Bool :=
  (f.progressWrite v primary secondaries joining {}).value.map fun r => !r.resendDirectly

/-- The given disconnections decide a write before it starts. -/
def writeDone (f : Form) (v : VolumeType) (primary secondaries joining arbiters : UInt32) :
    Except Overflow Bool :=
  f.policy.writeDone.holds (Tally.ofCounts v primary secondaries joining arbiters)

/-- The given disconnections decide a read before it starts. -/
def readDone (f : Form) (v : VolumeType) (primary secondaries joining arbiters : UInt32) :
    Except Overflow Bool :=
  f.policy.readDone.holds (Tally.ofCounts v primary secondaries joining arbiters)

/-- So many skipped secondaries mean that source volume data is skipped. -/
def skipsSourceData (f : Form) (skipped : UInt32) : Bool :=
  f.policy.skipThreshold ≤ skipped

end Form

end ReplicaQuorum
