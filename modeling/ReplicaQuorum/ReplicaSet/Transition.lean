import ReplicaQuorum.Error
import ReplicaQuorum.Journal.Logged

/-!
# Transitions

The edits that lead from one replica set to the next. A transition looks at the roster and either
does not apply, leaves the replica set as it is, is refused as an error, or makes a step: a new
roster at a higher version. A step clears the temporary primary and both candidates unless it is
about them, moves to the next epoch when the primary is elected and some generations on otherwise,
and starts without recorded statuses.
-/

namespace ReplicaQuorum

/-- An edit of a replica set. -/
inductive Transition where
  /-- Add plain secondaries; instances that are already there are skipped. -/
  | addSecondaries (ids : List InstanceId)
  /-- Add arbiters; instances that are already there are skipped. -/
  | addArbiters (ids : List InstanceId)
  /-- Put a new instance in the place of one that is not the primary, as a secondary. -/
  | replaceSecondary (old new : InstanceId)
  /-- Put an arbiter in the place of an inactive secondary. -/
  | inactiveForArbiter (inactive arbiter : InstanceId)
  /-- Put a joining secondary in the place of an inactive secondary. -/
  | inactiveForJoining (inactive joining : InstanceId)
  | removeSecondary (id : InstanceId)
  | removeArbiter (id : InstanceId)
  /-- Remove an inactive secondary for good; whether a quorum has adopted the set stays as it is. -/
  | removeInactive (id : InstanceId)
  /-- The result of a vote: the candidate becomes or stays primary. -/
  | electPrimary (candidate : InstanceId)
  | arbiterToInactive (id : InstanceId)
  /-- Make a secondary or joining secondary inactive. -/
  | aliveToInactive (id : InstanceId)
  | addJoining (id : InstanceId)
  | joiningToSecondary (id : InstanceId)
  | joiningToInactive (id : InstanceId)
  | inactiveToJoining (id : InstanceId)
  | inactiveToArbiter (id : InstanceId)
  /-- The first phase of a planned switch of the primary. -/
  | nominatePrimary (id : InstanceId)
  /-- The second phase: the nominated secondary takes over. -/
  | promoteNominee (id : InstanceId)
  /-- Let a secondary serve as primary without touching the formal primary. -/
  | appointTempPrimary (id : InstanceId)
  /-- The same with a given number of generations to move on. -/
  | appointTempPrimaryBy (id : InstanceId) (generations : UInt64)
  /-- The outcome of a primary's pre-election. -/
  | selectPotentialPrimary (id : InstanceId)
  /-- Register an instance that is to replace a member. -/
  | addCandidate (id : InstanceId)
  | removeCandidate (id : InstanceId)
  | candidateToJoining (id : InstanceId)
  /-- Make the registered instance a secondary in the place of a member. -/
  | candidateForMember (candidate replacee : InstanceId)
deriving DecidableEq, Repr

/-- How a step moves the version. -/
inductive Advance where
  | epoch
  | generations (n : Nat)
deriving DecidableEq, Repr

/-- The version after an advance. -/
def Version.after (v : Version) : Advance → Except Overflow Version
  | .epoch => v.nextEpoch
  | .generations n => v.advance n

/-- What a transition does to a replica set. -/
inductive Effect where
  /-- The transition does not apply. -/
  | declined
  /-- There is nothing to change. -/
  | unchanged
  | refused (e : MembershipError)
  /-- The roster that follows, but for its version. -/
  | step (advance : Advance) (next : Roster)
  /-- A step that keeps the mark of a quorum's consent. -/
  | markedStep (advance : Advance) (next : Roster)
deriving DecidableEq

namespace Effect

/-- A step of one generation. -/
def edit (next : Roster) : Effect :=
  .step (.generations 1) next

/-- The step where a condition holds, nothing to change elsewhere. -/
def whenever (condition : Bool) (effect : Effect) : Effect :=
  if condition then effect else unchanged

/-- The step where a condition holds; elsewhere the transition does not apply. -/
def only (condition : Bool) (effect : Effect) : Effect :=
  if condition then effect else declined

end Effect

namespace Roster

/-- The instances of a list that are not there yet. -/
def freshAmong (r : Roster) (ids : List InstanceId) : List InstanceId :=
  ids.filter fun id => !r.contains id

/-- The roster without a member that is not the primary. -/
def without (r : Roster) (id : InstanceId) : Roster :=
  { r with
    secondaries := r.secondaries.erase id
    arbiters := r.arbiters.erase id
    inactive := r.inactive.erase id
    joining := r.joining.erase id }

/-- The generations by which a temporary primary outruns the primary: one more than the number of
secondaries of any kind, beyond what the primary can reach by shedding them one by one. -/
def outrun (r : Roster) : Nat :=
  1 + r.allSecondaries.size

/-- The roster in which a secondary took over as primary. The primary before it becomes a
secondary. -/
def handOver (r : Roster) (id : InstanceId) : Roster :=
  { r.cleared with primary := id, secondaries := (r.secondaries.erase id).insert r.primary }

/-- The roster in which a secondary took over as primary while a temporary primary was serving. The
primary before it becomes inactive. -/
def takeOver (r : Roster) (id : InstanceId) : Roster :=
  { r.cleared with
    primary := id
    secondaries := r.secondaries.erase id
    inactive := r.inactive.insert r.primary }

end Roster

namespace Transition

/-- The name of a transition. -/
def name : Transition → String
  | addSecondaries .. => "add_secondaries"
  | addArbiters .. => "add_arbiters"
  | replaceSecondary .. => "replace_secondary"
  | inactiveForArbiter .. => "remove_inactive_secondary_and_add_arbiter"
  | inactiveForJoining .. => "remove_inactive_secondary_and_add_joining_secondary"
  | removeSecondary .. => "remove_secondary"
  | removeArbiter .. => "remove_arbiter"
  | removeInactive .. => "remove_inactive_secondary"
  | electPrimary .. => "new_primary_chosen"
  | arbiterToInactive .. => "arbiter_become_inactive"
  | aliveToInactive .. => "alive_secondary_become_inactive"
  | addJoining .. => "add_joining_secondary"
  | joiningToSecondary .. => "joining_secondary_become_secondary"
  | joiningToInactive .. => "joining_secondary_become_inactive"
  | inactiveToJoining .. => "inactive_secondary_become_joining"
  | inactiveToArbiter .. => "inactive_secondary_become_arbiter"
  | nominatePrimary .. => "secondary_become_primary_candidate"
  | promoteNominee .. => "primary_candidate_become_primary"
  | appointTempPrimary .. => "secondary_become_temp_primary"
  | appointTempPrimaryBy .. => "secondary_become_temp_primary_with_increment"
  | selectPotentialPrimary .. => "potential_primary_selected"
  | addCandidate .. => "add_secondary_candidate"
  | removeCandidate .. => "remove_secondary_candidate"
  | candidateToJoining .. => "secondary_candidate_becomes_joining"
  | candidateForMember .. => "secondary_candidate_becomes_secondary_and_remove_the_replacee"

/-- What a transition does to a replica set. -/
def effect (m : ReplicaSet) : Transition → Effect
  | addSecondaries ids =>
    let fresh := m.freshAmong ids
    .whenever (!fresh.isEmpty)
      (.edit { m.cleared with secondaries := .ofList fresh ∪ m.secondaries })
  | addArbiters ids =>
    let fresh := m.freshAmong ids
    .whenever (!fresh.isEmpty) (.edit { m.cleared with arbiters := .ofList fresh ∪ m.arbiters })
  | replaceSecondary old new =>
    let rest := m.cleared.without old
    .only (m.contains old && m.primary ≠ old && !m.contains new)
      (.edit { rest with secondaries := rest.secondaries.insert new })
  | inactiveForArbiter inactive arbiter =>
    .only (inactive ∈ m.inactive && (arbiter = inactive || !m.contains arbiter))
      (.edit
        { m.cleared with
          inactive := m.inactive.erase inactive
          arbiters := m.arbiters.insert arbiter })
  | inactiveForJoining inactive joining =>
    .only (inactive ∈ m.inactive && (joining = inactive || !m.contains joining))
      (.edit
        { m.cleared with
          inactive := m.inactive.erase inactive
          joining := m.joining.insert joining })
  | removeSecondary id =>
    .only (id ∈ m.secondaries) (.edit { m.cleared with secondaries := m.secondaries.erase id })
  | removeArbiter id =>
    .only (id ∈ m.arbiters) (.edit { m.cleared with arbiters := m.arbiters.erase id })
  | removeInactive id =>
    .whenever (id ∈ m.inactive)
      (.markedStep (.generations 1) { m.cleared with inactive := m.inactive.erase id })
  | electPrimary candidate =>
    if m.primary = candidate then .step .epoch m.cleared
    else
      .only (candidate ∈ m.secondaries)
        (.step .epoch
          (if m.tempPrimary.isSome then m.takeOver candidate else m.handOver candidate))
  | arbiterToInactive id =>
    .whenever (id ∈ m.arbiters)
      (.edit
        { m.cleared with
          tempPrimary := m.tempPrimary
          arbiters := m.arbiters.erase id
          inactive := m.inactive.insert id })
  | aliveToInactive id =>
    .whenever (id ∈ m.secondaries || id ∈ m.joining)
      (.edit
        { m.cleared with
          tempPrimary := m.tempPrimary
          secondaries := m.secondaries.erase id
          joining := m.joining.erase id
          inactive := m.inactive.insert id })
  | addJoining id =>
    if id ∈ m.joining then .unchanged
    else if m.contains id then .refused (.cannotJoin id m)
    else .edit { m.cleared with joining := m.joining.insert id }
  | joiningToSecondary id =>
    .whenever (id ∈ m.joining)
      (.edit
        { m.cleared with
          joining := m.joining.erase id
          secondaries := m.secondaries.insert id })
  | joiningToInactive id =>
    .whenever (id ∈ m.joining)
      (.edit
        { m.cleared with joining := m.joining.erase id, inactive := m.inactive.insert id })
  | inactiveToJoining id =>
    .whenever (id ∈ m.inactive)
      (.edit
        { m.cleared with inactive := m.inactive.erase id, joining := m.joining.insert id })
  | inactiveToArbiter id =>
    .whenever (id ∈ m.inactive)
      (.edit
        { m.cleared with inactive := m.inactive.erase id, arbiters := m.arbiters.insert id })
  | nominatePrimary id =>
    .only (id ∈ m.secondaries && m.primaryCandidate.isNone)
      (.edit { m.cleared with primaryCandidate := some id })
  | promoteNominee id =>
    .only (id ∈ m.secondaries && m.primaryCandidate = some id) (.step .epoch (m.handOver id))
  | appointTempPrimary id =>
    .only (id ∈ m.secondaries)
      (.step (.generations m.outrun) { m.cleared with tempPrimary := some id })
  | appointTempPrimaryBy id generations =>
    .only (id ∈ m.secondaries)
      (.step (.generations generations.toNat) { m.cleared with tempPrimary := some id })
  | selectPotentialPrimary id =>
    .step (.generations m.outrun) { m.cleared with tempPrimary := m.tempPrimary.filter (· = id) }
  | addCandidate id =>
    if m.secondaryCandidate = some id then .unchanged
    else if m.contains id then .refused (.candidateKnown id m)
    else .edit { m.cleared with secondaryCandidate := some id }
  | removeCandidate id =>
    .whenever (m.secondaryCandidate = some id) (.edit m.cleared)
  | candidateToJoining id =>
    .whenever (m.secondaryCandidate = some id)
      (.edit { m.cleared with joining := m.joining.insert id })
  | candidateForMember candidate replacee =>
    .whenever
      (m.secondaryCandidate = some candidate
        && (replacee ∈ m.secondaries || replacee ∈ m.inactive || replacee ∈ m.joining))
      (.edit
        { m.cleared with
          secondaries := (m.secondaries.erase replacee).insert candidate
          inactive := m.inactive.erase replacee
          joining := m.joining.erase replacee })

/-- The replica set that follows, if the transition applies and the version can move on. -/
def outcome (t : Transition) (m : ReplicaSet) :
    Except (Fault MembershipError) (Option ReplicaSet) :=
  match t.effect m with
  | .declined => .ok none
  | .unchanged => .ok (some m)
  | .refused e => .error (.error e)
  | .step advance next =>
    match m.version.after advance with
    | .error o => .error (.overflow o)
    | .ok version => .ok (some (.ofRoster { next with version }))
  | .markedStep advance next =>
    match m.version.after advance with
    | .error o => .error (.overflow o)
    | .ok version =>
      .ok (some { ReplicaSet.ofRoster { next with version } with
        quorumUpdated := m.quorumUpdated })

/-- The notice that an instance to be added is already there. -/
def alreadyMember (t : Transition) (id : InstanceId) : Notice :=
  Notice.ofEvent .warn .transitionRejected
    [("transition", t.name), ("instance", toString id), ("reason", "already a member")]

/-- The notice that a vote chose an instance that cannot become primary. -/
def notElectable (t : Transition) (m : ReplicaSet) (id : InstanceId) : Notice :=
  Notice.ofEvent .warn .transitionRejected
    [("transition", t.name), ("instance", toString id), ("membership", m.text),
     ("reason", "not the primary or a secondary")]

/-- The notices that a transition gives. -/
def notices (t : Transition) (m : ReplicaSet) : List Notice :=
  match t with
  | addSecondaries ids | addArbiters ids => (ids.filter m.contains).map t.alreadyMember
  | electPrimary id =>
    if m.primary = id || id ∈ m.secondaries then [] else [t.notElectable m id]
  | _ => []

/-- The outcome of a transition with its notices. -/
def apply (t : Transition) (m : ReplicaSet) :
    Logged (Except (Fault MembershipError) (Option ReplicaSet)) :=
  ⟨t.outcome m, t.notices m⟩

end Transition

end ReplicaQuorum
