/-!
# Severities and events

How grave a log line is, and the events that lines are about.
-/

namespace ReplicaQuorum

/-- How grave a log line is. -/
inductive Severity where
  /-- Decisions of single rounds. -/
  | trace
  /-- Normal operation. -/
  | info
  /-- Transitions and status moves that were turned down. -/
  | warn
  /-- Memberships that were refused and writes that are impossible. -/
  | error
  /-- Persisted state that is corrupt. -/
  | fatal
deriving DecidableEq, Repr

namespace Severity

/-- All severities, in ascending order. -/
def all : List Severity := [trace, info, warn, error, fatal]

/-- The name of the severity. -/
def name : Severity → String
  | trace => "TRACE"
  | info => "INFO"
  | warn => "WARN"
  | error => "ERROR"
  | fatal => "FATAL"

/-- The place of the severity in the order. -/
def rank : Severity → Nat
  | trace => 0
  | info => 1
  | warn => 2
  | error => 3
  | fatal => 4

/-- Lines of a severity are written when `minimum` is the lowest severity that is. -/
def isEnabled (s minimum : Severity) : Bool :=
  minimum.rank ≤ s.rank

/-- Lines that go to the error stream. -/
def isAlarm (s : Severity) : Bool :=
  error.rank ≤ s.rank

/-- The severity with a name. -/
def ofName? (name : String) : Option Severity :=
  all.find? fun s => s.name = name

end Severity

/-- What a log line is about. -/
inductive Event where
  | transitionApplied
  | transitionRejected
  | statusMoveRejected
  | statusMerged
  | inactiveMemberStatus
  | resendDecided
  | writeRefused
  | membershipInstalled
  | installRefused
  | higherMembershipRefused
  | configLoaded
  | snapshotPersisted
  | snapshotCorrupted
deriving DecidableEq, Repr

namespace Event

/-- All events. -/
def all : List Event :=
  [transitionApplied, transitionRejected, statusMoveRejected, statusMerged, inactiveMemberStatus,
   resendDecided, writeRefused, membershipInstalled, installRefused, higherMembershipRefused,
   configLoaded, snapshotPersisted, snapshotCorrupted]

/-- The name of the event. -/
def name : Event → String
  | transitionApplied => "MEMBERSHIP_TRANSITION_APPLIED"
  | transitionRejected => "MEMBERSHIP_TRANSITION_REJECTED"
  | statusMoveRejected => "MEMBER_STATUS_MOVE_REJECTED"
  | statusMerged => "MEMBER_STATUS_MERGED"
  | inactiveMemberStatus => "INACTIVE_MEMBER_STATUS"
  | resendDecided => "IO_RESEND_DECIDED"
  | writeRefused => "IO_WRITE_REFUSED"
  | membershipInstalled => "MEMBERSHIP_INSTALLED"
  | installRefused => "MEMBERSHIP_INSTALL_REFUSED"
  | higherMembershipRefused => "HIGHER_MEMBERSHIP_REFUSED"
  | configLoaded => "CONFIG_LOADED"
  | snapshotPersisted => "MEMBERSHIP_SNAPSHOT_PERSISTED"
  | snapshotCorrupted => "MEMBERSHIP_SNAPSHOT_CORRUPTED"

/-- An event that means a fatal condition. -/
def isFatal (e : Event) : Bool :=
  e = snapshotCorrupted

/-- The event with a name. -/
def ofName? (name : String) : Option Event :=
  all.find? fun e => e.name = name

end Event

end ReplicaQuorum
