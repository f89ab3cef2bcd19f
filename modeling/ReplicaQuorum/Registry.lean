import ReplicaQuorum.Counters
import ReplicaQuorum.Form.Verdict
import ReplicaQuorum.ReplicaSet.Admission
import ReplicaQuorum.ReplicaSet.Broadcast
import ReplicaQuorum.ReplicaSet.Liveness
import ReplicaQuorum.ReplicaSet.Transition
import ReplicaQuorum.Store.Sink

/-!
# Registries

A registry holds the installed replica set of each segment. A replica set is replaced only by one of
a strictly higher version that admits the instance, every replica set is persisted before it is
installed, and what the registry does is counted. Every operation gives its result and the registry
after it, also where it ends in an error.

One lock stands over the replica sets of all segments, and every operation takes it first. A
transition is worked out while it is held, so one that overflows poisons it, and no operation on any
segment has an answer any more. The sink and the counters can still be read.
-/

namespace ReplicaQuorum

/-- The installed replica sets over a sink. -/
structure Registry where
  sink : Sink := .empty
  installed : IdMap ReplicaSet := ∅
  counters : Counters := {}
  /-- A sum did not fit while the lock over the installed replica sets was held. -/
  poisoned : Bool := false
deriving DecidableEq

namespace Registry

/-- The result of an operation and the registry after it. -/
abbrev Outcome (α : Type) := Logged (Except (Fault StoreError) α × Registry)

/-- The outcome of an operation that ends in an error. -/
def failed {α : Type} (r : Registry) (e : StoreError) (notices : List Notice) : Outcome α :=
  ⟨(.error (.error e), r), notices⟩

/-- The outcome of an operation that finds the lock poisoned. -/
def shut {α : Type} (r : Registry) : Outcome α :=
  ⟨(.error (.overflow .poisoned), r), []⟩

/-- The outcome of an operation that takes the lock. -/
def locked {α : Type} (r : Registry) (operation : Outcome α) : Outcome α :=
  if r.poisoned then r.shut else operation

/-- The registry after a sum did not fit under the lock. -/
def poison (r : Registry) : Registry :=
  { r with poisoned := true }

/-- The registry with one counter raised. -/
def raise (r : Registry) (counter : Counter) : Registry :=
  { r with counters := r.counters.raise counter }

/-- The registry with a replica set installed. -/
def setInstalled (r : Registry) (segment : SegmentId) (m : ReplicaSet) : Registry :=
  { r with installed := r.installed.insert segment m }

/-- The installed replica set of a segment, whoever may see it. -/
def get? (r : Registry) (segment : SegmentId) : Option ReplicaSet :=
  r.installed.get? segment

/-- Tells the installed replica set of a segment. -/
def get (r : Registry) (segment : SegmentId) : Outcome (Option ReplicaSet) :=
  r.locked ⟨(.ok (r.get? segment), r), []⟩

/-- Installs what the sink has of a segment in place of whatever is installed. -/
def recover (r : Registry) (segment : SegmentId) : Outcome (Option ReplicaSet) :=
  r.locked <|
  let loaded := r.sink.loadLatest segment
  match loaded.value with
  | .error e => r.failed e loaded.notices
  | .ok none => ⟨(.ok none, r), loaded.notices⟩
  | .ok (some m) => ⟨(.ok (some m), r.setInstalled segment m), loaded.notices⟩

/-- The notice that a replica set was installed. -/
def installedNotice (segment : SegmentId) (m : ReplicaSet) : Notice :=
  Notice.ofEvent .info .membershipInstalled
    [("segment", toString segment), ("membership", m.text)]

/-- Persists a replica set and then installs it. -/
def commit (r : Registry) (now : Instant) (segment : SegmentId) (m : ReplicaSet) :
    Logged (Except StoreError Registry) :=
  let persisted := r.sink.persist now segment m
  match persisted.value with
  | .error e => ⟨.error e, persisted.notices⟩
  | .ok sink =>
    ⟨.ok (({ r with sink }.raise .snapshotsPersisted).setInstalled segment m),
      persisted.notices ++ [installedNotice segment m]⟩

/-- Why a replica set that was offered is not installed. -/
inductive Refusal where
  | notAdmitted
  | alreadyInstalled
  | lowerVersion
deriving DecidableEq, Repr

/-- What is reported of a refusal. -/
def Refusal.reason : Refusal → String
  | .notAdmitted => "helper refused higher membership"
  | .alreadyInstalled => "already installed"
  | .lowerVersion => "lower version"

/-- The notice that a replica set was not installed. -/
def refusedNotice (segment : SegmentId) (current offered : ReplicaSet) (refusal : Refusal) :
    Notice :=
  Notice.ofEvent .warn .installRefused
    [("segment", toString segment), ("current", current.version.text),
     ("offered", offered.version.text), ("reason", refusal.reason)]

/-- Why a replica set is not installed over the current one, if it is not. -/
def refusal? (current offered : ReplicaSet) (me : InstanceId) (total : Nat) :
    Logged (Except MembershipError (Option Refusal)) :=
  match offered.compareTo current with
  | .error e => ⟨.error e, []⟩
  | .ok .eq => ⟨.ok (some .alreadyInstalled), []⟩
  | .ok .lt => ⟨.ok (some .lowerVersion), []⟩
  | .ok .gt =>
    let admission := offered.admits current me total
    ⟨admission.value.map fun admitted => if admitted then none else some .notAdmitted,
      admission.notices⟩

/-- Commits a replica set that nothing speaks against. -/
def accept (r : Registry) (now : Instant) (segment : SegmentId) (m : ReplicaSet)
    (notices : List Notice) : Outcome Bool :=
  let committed := r.commit now segment m
  match committed.value with
  | .error e => r.failed e (notices ++ committed.notices)
  | .ok next => ⟨(.ok true, next.raise .installsAccepted), notices ++ committed.notices⟩

/-- Installs a replica set that is offered to the instance `me`, and tells whether it did. -/
def install (r : Registry) (now : Instant) (segment : SegmentId) (offered : ReplicaSet)
    (me : InstanceId) (total : Nat) : Outcome Bool :=
  r.locked <|
  match r.get? segment with
  | none => r.accept now segment offered []
  | some current =>
    let check := refusal? current offered me total
    match check.value with
    | .error e => r.failed (.content e) check.notices
    | .ok none => r.accept now segment offered check.notices
    | .ok (some refusal) =>
      ⟨(.ok false, r.raise .installsRefused),
        check.notices ++ [refusedNotice segment current offered refusal]⟩

/-- The notice that a transition changed nothing. -/
def rejectedNotice (segment : SegmentId) (name : String) (current : ReplicaSet) : Notice :=
  Notice.ofEvent .warn .transitionRejected
    [("segment", toString segment), ("transition", name), ("version", current.version.text)]

/-- The notice that a transition was applied. -/
def appliedNotice (segment : SegmentId) (name : String) (current next : ReplicaSet) : Notice :=
  Notice.ofEvent .info .transitionApplied
    [("segment", toString segment), ("transition", name), ("from", current.version.text),
     ("to", next.version.text)]

/-- Installs the result of a transition called `name` if it has a higher version. The lock is held
while the transition is worked out. -/
def apply (r : Registry) (now : Instant) (segment : SegmentId) (name : String)
    (transition : ReplicaSet → Logged (Except (Fault MembershipError) (Option ReplicaSet))) :
    Outcome (Option ReplicaSet) :=
  r.locked <|
  match r.get? segment with
  | none => r.failed (.unknownSegment segment) []
  | some current =>
    let edit := transition current
    let rejected : Outcome (Option ReplicaSet) :=
      ⟨(.ok none, r.raise .transitionsRejected),
        edit.notices ++ [rejectedNotice segment name current]⟩
    match edit.value with
    | .error (.error e) => r.failed (.content e) edit.notices
    | .error (.overflow o) => ⟨(.error (.overflow o), r.poison), edit.notices⟩
    | .ok none => rejected
    | .ok (some next) =>
      if current.version < next.version then
        let committed := r.commit now segment next
        match committed.value with
        | .error e => r.failed e (edit.notices ++ committed.notices)
        | .ok after =>
          ⟨(.ok (some next), after.raise .transitionsApplied),
            edit.notices ++ committed.notices ++ [appliedNotice segment name current next]⟩
      else rejected

/-- Records a status of a member of the installed replica set, and tells whether it was taken. -/
def mark (r : Registry) (segment : SegmentId) (id : InstanceId) (status : Status) :
    Outcome Bool :=
  r.locked <|
  match r.get? segment with
  | none => r.failed (.unknownSegment segment) []
  | some m =>
    let marked := m.mark id status
    match marked.value with
    | (.error e, next) => (r.setInstalled segment next).failed (.content e) marked.notices
    | (.ok true, next) => ⟨(.ok true, r.setInstalled segment next), marked.notices⟩
    | (.ok false, next) =>
      ⟨(.ok false, (r.setInstalled segment next).raise .statusMovesRejected), marked.notices⟩

/-- Binds the installed replica set and its form to the caller's round, and tells whether the write
has to be sent again with the given members alive. The round comes out as it was left, also where
there is an error. The lock is given back once the replica set was found, so a sum that does not fit
in the tally of the write leaves it alone. -/
def advanceWrite (r : Registry) (segment : SegmentId) (v : VolumeType)
    (primary secondaries joining : UInt32) (round : Round) : Outcome Bool × Round :=
  if r.poisoned then (r.shut, round) else
  match r.get? segment with
  | none => (r.failed (.unknownSegment segment) [], round)
  | some m =>
    match m.form v with
    | .error e => (r.failed (.content e) [], round)
    | .ok form =>
      let bound := { round with form := some form, replicas := some m }
      let progress := form.progressWrite v primary secondaries joining bound
      match progress.value with
      | .error o => (⟨(.error (.overflow o), r), progress.notices⟩, bound)
      | .ok after =>
        (⟨(.ok after.resendDirectly,
            if after.resendDirectly then r.raise .resendDecisions else r),
          progress.notices⟩, after)

/-- Advances a write as `advanceWrite` does. The round after it comes with the result. -/
def processWrite (r : Registry) (segment : SegmentId) (v : VolumeType)
    (primary secondaries joining : UInt32) (round : Round) : Outcome (Bool × Round) :=
  let (outcome, after) := r.advanceWrite segment v primary secondaries joining round
  ⟨outcome.value.map (·.map fun resend => (resend, after)) id, outcome.notices⟩

end Registry

end ReplicaQuorum
