import ReplicaQuorum.Proofs.Transition.Bypass

/-!
# Planned switches

A planned switch of the primary nominates a secondary and then lets it take over, while a vote lets
it take over at once. The nomination clears what every step clears and moves one generation on, and
the next epoch starts all that anew. So both ways lead to one replica set, unless a temporary
primary serves: the nomination loses it, and with it the reason for which a vote makes the primary
before inactive.
-/

namespace ReplicaQuorum

namespace Transition

variable {m : ReplicaSet} {version : Version} {c : InstanceId}

/-- The roster after a nomination. -/
def nomination (m : ReplicaSet) (c : InstanceId) (version : Version) : Roster :=
  { m.cleared with primaryCandidate := some c, version }

/-- A secondary is nominated where nobody is yet. -/
lemma outcome_nominatePrimary (held : c ∈ m.secondaries) (free : m.primaryCandidate = none)
    (after : m.version.advance 1 = .ok version) :
    outcome (.nominatePrimary c) m = .ok (some (.ofRoster (nomination m c version))) := by
  have step : effect m (.nominatePrimary c)
      = .step (.generations 1) { m.cleared with primaryCandidate := some c } := by
    simp [effect, Effect.only, Effect.edit, held, free]
  exact outcome_of_step step after

/-- Whoever is nominated takes over as if a vote had chosen it with no temporary primary. -/
lemma outcome_promoteNominee {nominated : Version} (held : c ∈ m.secondaries)
    (epoch : nominated.epoch = m.version.epoch) (after : m.version.nextEpoch = .ok version) :
    outcome (.promoteNominee c) (.ofRoster (nomination m c nominated))
      = .ok (some (.ofRoster { m.handOver c with version })) := by
  have step : effect (.ofRoster (nomination m c nominated)) (.promoteNominee c)
      = .step .epoch ((nomination m c nominated).handOver c) := by
    simp [effect, Effect.only, ReplicaSet.ofRoster, nomination, Roster.cleared, held]
  have moved : nominated.nextEpoch = .ok version := (Version.nextEpoch_congr epoch).trans after
  rw [outcome_of_step step moved]
  rfl

/-- A secondary that is elected takes over while a temporary primary serves, and is handed the place
of the primary otherwise. -/
lemma outcome_electPrimary (wf : m.WellFormed) (held : c ∈ m.secondaries)
    (after : m.version.nextEpoch = .ok version) :
    outcome (.electPrimary c) m = .ok (some (.ofRoster
      { if m.tempPrimary.isSome then m.takeOver c else m.handOver c with version })) := by
  have other : m.primary ≠ c := by
    rintro rfl
    exact wf.primary_notMem .secondary held
  have step : effect m (.electPrimary c) = .step .epoch
      (if m.tempPrimary.isSome then m.takeOver c else m.handOver c) := by
    simp [effect, Effect.only, other, held]
  exact outcome_of_step step after

end Transition

/-- A secondary can be nominated while nobody is and then take over, and a vote can let it take over
at once, where the version has room for both. Both ways lead to one version, and exactly if no
temporary primary serves they lead to one replica set, the mark of a quorum's consent included. -/
theorem planned_switch_elects_iff {m : ReplicaSet} {c : InstanceId} (wf : m.WellFormed)
    (held : c ∈ m.secondaries) (free : m.primaryCandidate = none)
    (epochs : m.version.epoch.toNat + 1 < UInt64.size)
    (generations : m.version.generation.toNat + 1 < UInt64.size) :
    ∃ nominated switched elected : ReplicaSet,
      Transition.outcome (.nominatePrimary c) m = .ok (some nominated) ∧
      Transition.outcome (.promoteNominee c) nominated = .ok (some switched) ∧
      Transition.outcome (.electPrimary c) m = .ok (some elected) ∧
      switched.version = elected.version ∧
      (m.tempPrimary = none → switched = elected) ∧
      (m.tempPrimary ≠ none → m.primary ∈ switched.secondaries ∧
        m.primary ∉ elected.secondaries ∧ m.primary ∈ elected.inactive) := by
  obtain ⟨raised, moved⟩ := Version.exists_advance generations
  obtain ⟨version, after⟩ := Version.exists_nextEpoch epochs
  have epoch : raised.epoch = m.version.epoch := (Version.advance_eq_ok_iff.1 moved).1
  have elected := Transition.outcome_electPrimary wf held after
  obtain ⟨secondary, inactive⟩ := Transition.primary_of_elected wf held elected
  refine ⟨_, _, _, Transition.outcome_nominatePrimary held free moved,
    Transition.outcome_promoteNominee held epoch after, elected, rfl, fun nobody => ?_,
    fun serving => ⟨?_, mt secondary.1 serving, inactive.2 serving⟩⟩
  · rw [nobody]
    rfl
  · exact IdSet.mem_insert.2 (.inl rfl)

/-- In a segment with members of all kinds and a registered candidate, a planned switch leads to the
replica set that a vote leads to. -/
theorem planned_switch_elects_populated :
    ∃ m nominated n : ReplicaSet,
      Content.decode "1,7,1,-1,2:3,4,5,6,-1,7" = .ok m ∧
      Content.decode "2,0,2,-1,1:3,4,5,6,-1,-1" = .ok n ∧
      (m.WellFormed ∧ 2 ∈ m.secondaries ∧ m.primaryCandidate = none ∧
        m.version.epoch.toNat + 1 < UInt64.size ∧ m.version.generation.toNat + 1 < UInt64.size) ∧
      m.tempPrimary = none ∧
      Transition.outcome (.nominatePrimary 2) m = .ok (some nominated) ∧
      Transition.outcome (.promoteNominee 2) nominated = .ok (some n) ∧
      Transition.outcome (.electPrimary 2) m = .ok (some n) := by
  let m : ReplicaSet := .ofRoster
    { version := ⟨1, 7⟩, primary := 1, secondaries := .ofList [2, 3], arbiters := .ofList [4],
      inactive := .ofList [5], joining := .ofList [6], secondaryCandidate := some 7 }
  let n : ReplicaSet := .ofRoster
    { version := ⟨2, 0⟩, primary := 2, secondaries := .ofList [1, 3], arbiters := .ofList [4],
      inactive := .ofList [5], joining := .ofList [6] }
  have before : Content.decode "1,7,1,-1,2:3,4,5,6,-1,7" = .ok m := by rfl
  have after : Content.decode "2,0,2,-1,1:3,4,5,6,-1,-1" = .ok n := by rfl
  have wf : m.WellFormed := by decide
  have held : 2 ∈ m.secondaries := by decide
  have epochs : m.version.epoch.toNat + 1 < UInt64.size := by decide
  have generations : m.version.generation.toNat + 1 < UInt64.size := by decide
  have voted : Transition.outcome (.electPrimary 2) m = .ok (some n) := by rfl
  obtain ⟨nominated, switched, elected, first, second, vote, -, same, -⟩ :=
    planned_switch_elects_iff wf held rfl epochs generations
  obtain rfl : elected = n := Option.some.inj (Except.ok.inj (vote.symm.trans voted))
  obtain rfl : switched = n := same rfl
  exact ⟨m, nominated, n, before, after, ⟨wf, held, rfl, epochs, generations⟩, rfl, first, second,
    voted⟩

end ReplicaQuorum
