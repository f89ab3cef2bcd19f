import ReplicaQuorum.Proofs.Form.Classify
import ReplicaQuorum.Proofs.Transition.Trace

/-!
# Forms during a failover

In a failover members go between roles and nobody comes or leaves for good: a secondary or arbiter
that is lost becomes inactive, a primary that is replaced becomes a secondary or inactive, and an
inactive member comes back as a joining secondary where one is missing. So the roster stays of full
size, with no more secondaries and arbiters than the volume asks for, and has a form all along.
-/

namespace ReplicaQuorum

namespace Roster

variable {r next : Roster} {v : VolumeType} {origin target : Role}

/-- The roster has the members of a volume, and no more secondaries and arbiters than the volume
asks for. -/
structure Fits (r : Roster) (v : VolumeType) : Prop where
  size : r.size = v.shape.members.toNat
  secondaries : r.secondaries.size + r.joining.size ≤ v.shape.secondaries.toNat
  arbiters : r.arbiters.size ≤ v.shape.arbiters.toNat

/-- A roster that fits its volume has a form. -/
lemma Fits.exists_form (fits : r.Fits v) : ∃ f, r.form? v = some f :=
  VolumeType.exists_classify fits.secondaries fits.arbiters fits.size

/-- From which role to which one an instance may go during a failover. -/
inductive Allows (r : Roster) (v : VolumeType) : Role → Role → Prop where
  | stays (role : Role) : Allows r v role role
  | retires (origin : Role) : Allows r v origin .inactive
  | joins : Allows r v .joining .secondary
  | rejoins (room : r.secondaries.size + r.joining.size < v.shape.secondaries.toNat) :
    Allows r v .inactive .joining

/-- A roster still fits its volume once an instance went from a role to one that it may go to. -/
lemma Fits.of_shifts (fits : r.Fits v) (shifts : r.Shifts next origin target)
    (allows : r.Allows v origin target) : next.Fits v := by
  obtain ⟨size, secondaries, arbiters⟩ := fits
  have shiftedSecondaries := shifts .secondary
  have shiftedArbiters := shifts .arbiter
  have shiftedJoining := shifts .joining
  simp only [inRole] at shiftedSecondaries shiftedArbiters shiftedJoining
  cases allows with
  | stays =>
    -- every role is as large as before
    exact ⟨shifts.size_eq.trans size, by omega, by omega⟩
  | retires =>
    simp only [reduceCtorEq, if_false] at shiftedSecondaries shiftedArbiters shiftedJoining
    exact ⟨shifts.size_eq.trans size, by omega, by omega⟩
  | joins =>
    simp only [reduceCtorEq, if_true, if_false] at shiftedSecondaries shiftedArbiters shiftedJoining
    exact ⟨shifts.size_eq.trans size, by omega, by omega⟩
  | rejoins room =>
    simp only [reduceCtorEq, if_true, if_false] at shiftedSecondaries shiftedArbiters shiftedJoining
    exact ⟨shifts.size_eq.trans size, by omega, by omega⟩

/-- Where another joining secondary is allowed there is room for it. -/
lemma lt_of_allowsJoining {total : Nat} (allowed : r.allowsJoining total) :
    r.secondaries.size + r.joining.size < total := by
  simp only [allowsJoining, Bool.and_eq_true, decide_eq_true_eq] at allowed
  obtain ⟨missing, nobody⟩ := allowed
  rw [IdSet.isEmpty_iff.1 nobody]
  exact missing

end Roster

namespace Transition

variable {t : Transition} {m n : ReplicaSet} {a : Advance} {next : Roster} {v : VolumeType}

/-- The transition loses a member in use, elects or prepares another primary, or ends a joining. -/
def failsOver : Transition → Bool
  | aliveToInactive _ | arbiterToInactive _ | joiningToInactive _ | joiningToSecondary _ => true
  | electPrimary _ | nominatePrimary _ | promoteNominee _ => true
  | appointTempPrimary _ | selectPotentialPrimary _ => true
  | addCandidate _ | removeCandidate _ => true
  | _ => false

/-- The call brings an inactive member back where the volume misses a secondary and nobody joins. -/
def Rejoins (t : Transition) (v : VolumeType) (r : Roster) : Prop :=
  ∃ id, t = .inactiveToJoining id ∧ r.allowsJoining v.shape.secondaries.toNat

/-- What a step of a failover does to the roles: one instance goes to another role, or everybody
stays. -/
lemma shifts_of_failsOver (wf : m.WellFormed) (failover : t.failsOver)
    (step : (t.effect m).next? = some (a, next)) :
    ∃ origin target, m.Shifts next origin target ∧ m.Allows v origin target := by
  have moves := (effect_makes wf step).moves
  cases t <;> cases failover
  case aliveToInactive id =>
    simp only [effect, Effect.next?_whenever, Bool.or_eq_true, decide_eq_true_eq] at step
    rcases step.1 with held | held
    · exact ⟨.secondary, .inactive, moves.shifts wf held (.inl rfl), .retires .secondary⟩
    · exact ⟨.joining, .inactive, moves.shifts wf held (.inl rfl), .retires .joining⟩
  case arbiterToInactive id =>
    simp only [effect, Effect.next?_whenever, decide_eq_true_eq] at step
    exact ⟨.arbiter, .inactive, moves.shifts wf step.1 (.inl rfl), .retires .arbiter⟩
  case joiningToInactive id =>
    simp only [effect, Effect.next?_whenever, decide_eq_true_eq] at step
    exact ⟨.joining, .inactive, moves.shifts wf step.1 (.inl rfl), .retires .joining⟩
  case joiningToSecondary id =>
    simp only [effect, Effect.next?_whenever, decide_eq_true_eq] at step
    exact ⟨.joining, .secondary, moves.shifts wf step.1 (.inl rfl), .joins⟩
  case electPrimary candidate =>
    simp only [effect, Effect.next?_ite, Effect.next?_only, decide_eq_true_eq] at step
    rcases step with ⟨same, -⟩ | ⟨other, held, -⟩
    · simp only [change, if_pos same] at moves
      exact ⟨.secondary, .secondary, moves.shifts_self .secondary, .stays .secondary⟩
    · simp only [change, if_neg other] at moves
      refine ⟨.secondary, _, moves.shifts wf held (.inr wf.primary_notMem), ?_⟩
      split
      · exact .retires .secondary
      · exact .stays .secondary
  case promoteNominee id =>
    simp only [effect, Effect.next?_only, Bool.and_eq_true, decide_eq_true_eq] at step
    exact ⟨.secondary, .secondary, moves.shifts wf step.1.1 (.inr wf.primary_notMem),
      .stays .secondary⟩
  -- the other calls name somebody to be the next primary, in place
  all_goals exact ⟨.secondary, .secondary, moves.shifts_self .secondary, .stays .secondary⟩

/-- An inactive member that comes back is a joining secondary for which there is room. -/
lemma shifts_of_rejoins (wf : m.WellFormed) (rejoins : t.Rejoins v m.toRoster)
    (step : (t.effect m).next? = some (a, next)) :
    ∃ origin target, m.Shifts next origin target ∧ m.Allows v origin target := by
  have moves := (effect_makes wf step).moves
  obtain ⟨id, rfl, allowed⟩ := rejoins
  simp only [effect, Effect.next?_whenever, decide_eq_true_eq] at step
  exact ⟨.inactive, .joining, moves.shifts wf step.1 (.inl rfl),
    .rejoins (Roster.lt_of_allowsJoining allowed)⟩

/-- A failover keeps the layout of the volume. -/
lemma fits_of_outcome (wf : m.WellFormed) (fits : m.Fits v)
    (permitted : t.failsOver ∨ t.Rejoins v m.toRoster) (given : t.outcome m = .ok (some n)) :
    n.Fits v := by
  rcases outcome_cases given with rfl | ⟨a, next, version, step, -, eq⟩
  · exact fits
  · obtain ⟨origin, target, shifts, allows⟩ :=
      permitted.elim (shifts_of_failsOver wf · step) (shifts_of_rejoins wf · step)
    have kept : next.Fits v := fits.of_shifts shifts allows
    rw [eq]
    exact ⟨kept.size, kept.secondaries, kept.arbiters⟩

end Transition

namespace Run

variable {m n : ReplicaSet} {ts : List Transition} {v : VolumeType}

/-- Every call of the run is part of a failover, or brings a member back where one is missing. -/
def FailsOver (v : VolumeType) (m : ReplicaSet) (ts : List Transition) : Prop :=
  ∀ t k after, CalledOn m ts t k after → t.failsOver ∨ t.Rejoins v k.toRoster

/-- Nothing has happened in a run of no calls. -/
lemma failsOver_nil : FailsOver v m [] :=
  fun _ _ _ called => absurd called not_calledOn_nil

/-- A run is a failover if it is one before its last call, and that call is part of it. -/
lemma failsOver_snoc {t : Transition} {k : ReplicaSet} (run : Run m ts k) :
    FailsOver v m (ts ++ [t]) ↔ FailsOver v m ts ∧ (t.failsOver ∨ t.Rejoins v k.toRoster) := by
  unfold FailsOver
  simp only [calledOn_snoc run]
  constructor
  · intro all
    exact ⟨fun u j after called => all u j _ (.inr ⟨after, rfl, called⟩),
      all t k [] (.inl ⟨rfl, rfl, rfl⟩)⟩
  · rintro ⟨before, last⟩ u j after (⟨rfl, rfl, rfl⟩ | ⟨rest, rfl, called⟩)
    · exact last
    · exact before u j rest called

/-- A failover fits the volume all along. -/
lemma fits_of_failsOver (run : Run m ts n) (wf : m.WellFormed) (fits : m.Fits v)
    (failover : FailsOver v m ts) : ∀ k, PassesThrough m ts k → k.Fits v := by
  induction run with
  | nil =>
    intro k passed
    rw [passesThrough_nil.1 passed]
    exact fits
  | @snoc ts t k n run given ih =>
    obtain ⟨earlier, last⟩ := (failsOver_snoc run).1 failover
    have before := ih earlier
    intro j passed
    rcases (passesThrough_snoc run given).1 passed with passed | rfl
    · exact before j passed
    · have reached : k.Fits v := before k ⟨ts, [], by simp, run⟩
      exact Transition.fits_of_outcome (run.wellFormed wf) reached last given

end Run

/-- From a roster that fits a volume, every replica set along a failover has a form. -/
theorem form_throughout_failover {m n : ReplicaSet} {ts : List Transition} {v : VolumeType}
    (wf : m.WellFormed) (fits : m.Fits v) (run : Run m ts n) (failover : Run.FailsOver v m ts) :
    ∀ k, Run.PassesThrough m ts k → ∃ f, k.form v = .ok f := by
  intro k passed
  obtain ⟨f, form⟩ := (run.fits_of_failsOver wf fits failover k passed).exists_form
  exact ⟨f, ReplicaSet.form_eq_ok_iff.2 form⟩

/-- A large volume loses a secondary and, by way of a temporary primary, its primary, which comes
back as a joining secondary. -/
theorem form_throughout_failover_bypassed :
    ∃ (m n : ReplicaSet) (ts : List Transition),
      Content.decode "1,0,1,-1,2:3,4:5,,,-1,-1" = .ok m ∧ m.WellFormed ∧ m.Fits .large ∧
      ts = [.aliveToInactive 3, .appointTempPrimary 2, .electPrimary 2, .inactiveToJoining 1] ∧
      Run m ts n ∧ Run.FailsOver .large m ts ∧
      n.primary = 2 ∧ n.joining = .ofList [1] ∧ n.form .large = .ok .pjiaa ∧
      ∀ k, Run.PassesThrough m ts k → ∃ f, k.form .large = .ok f := by
  let m : ReplicaSet := .ofRoster
    { version := ⟨1, 0⟩, primary := 1, secondaries := .ofList [2, 3], arbiters := .ofList [4, 5] }
  let n : ReplicaSet := .ofRoster
    { version := ⟨2, 1⟩, primary := 2, arbiters := .ofList [4, 5], inactive := .ofList [3],
      joining := .ofList [1] }
  have content : Content.decode "1,0,1,-1,2:3,4:5,,,-1,-1" = .ok m := by rfl
  have wf : m.WellFormed := by decide
  have fits : m.Fits .large := ⟨by rfl, by decide, by decide⟩
  have lost : Run m [.aliveToInactive 3] _ := .snoc .nil rfl
  have appointed : Run m [.aliveToInactive 3, .appointTempPrimary 2] _ := .snoc lost rfl
  have elected : Run m [.aliveToInactive 3, .appointTempPrimary 2, .electPrimary 2] _ :=
    .snoc appointed rfl
  have run : Run m
      [.aliveToInactive 3, .appointTempPrimary 2, .electPrimary 2, .inactiveToJoining 1] n :=
    .snoc elected rfl
  have failover : Run.FailsOver .large m
      [.aliveToInactive 3, .appointTempPrimary 2, .electPrimary 2, .inactiveToJoining 1] := by
    refine (Run.failsOver_snoc elected).2 ⟨?_, .inr ⟨1, rfl, by decide⟩⟩
    refine (Run.failsOver_snoc appointed).2 ⟨?_, .inl rfl⟩
    refine (Run.failsOver_snoc lost).2 ⟨?_, .inl rfl⟩
    exact (Run.failsOver_snoc .nil).2 ⟨Run.failsOver_nil, .inl rfl⟩
  exact ⟨m, n, _, content, wf, fits, rfl, run, failover, rfl, rfl, rfl,
    form_throughout_failover wf fits run failover⟩

end ReplicaQuorum
