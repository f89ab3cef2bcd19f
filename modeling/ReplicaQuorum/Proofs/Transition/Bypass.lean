import ReplicaQuorum.Proofs.Transition.Raise
import ReplicaQuorum.Proofs.Transition.Trace

/-!
# Bypassed primaries

A primary that a temporary primary has bypassed lacks data, so the election of another primary is to
make it inactive and not a secondary that may be elected again. The election decides that by the
temporary primary that it finds, and most transitions clear it on their way. So the bypassed primary
becomes a secondary again exactly if some edit between the appointment and the election lost the
temporary primary and no other one was appointed since.
-/

namespace ReplicaQuorum

namespace Transition

/-- The secondary that a transition appoints as temporary primary. -/
def appointee? : Transition → Option InstanceId
  | appointTempPrimary id | appointTempPrimaryBy id _ => some id
  | _ => none

/-- The transition makes a member inactive and keeps the temporary primary. -/
def keepsTempPrimary : Transition → Bool
  | arbiterToInactive _ | aliveToInactive _ => true
  | _ => false

/-- The transition decides who is primary. -/
def choosesPrimary : Transition → Bool
  | electPrimary _ | promoteNominee _ | selectPotentialPrimary _ => true
  | _ => false

variable {t : Transition} {m n : ReplicaSet} {a : Advance} {next : Roster} {c : InstanceId}

/-- The call changes the replica set and neither keeps the temporary primary nor appoints one. -/
def Loses (t : Transition) (m : ReplicaSet) : Prop :=
  t.keepsTempPrimary = false ∧ t.appointee? = none ∧ t.outcome m ≠ .ok (some m)

/-- A transition that chooses no primary keeps it. -/
lemma primary_of_quiet (wf : m.WellFormed) (quiet : t.choosesPrimary = false)
    (given : t.outcome m = .ok (some n)) : n.primary = m.primary := by
  rcases outcome_cases given with rfl | ⟨a, next, version, step, -, eq⟩
  · rfl
  · rw [eq]
    show next.primary = m.primary
    rw [(effect_makes wf step).primary_eq]
    cases t
    case electPrimary | promoteNominee | selectPotentialPrimary => cases quiet
    all_goals rfl

/-- Who serves as temporary primary after a step that neither appoints one nor decides who is
primary. -/
lemma tempPrimary_of_step (wf : m.WellFormed) (quiet : t.choosesPrimary = false)
    (nobody : t.appointee? = none) (step : (t.effect m).next? = some (a, next)) :
    next.tempPrimary = if t.keepsTempPrimary then m.tempPrimary else none := by
  rw [(effect_makes wf step).tempPrimary_eq]
  cases t
  case electPrimary | promoteNominee | selectPotentialPrimary => cases quiet
  case appointTempPrimary | appointTempPrimaryBy => cases nobody
  all_goals rfl

/-- Whoever is appointed serves as temporary primary. -/
lemma tempPrimary_of_appointee (appoints : t.appointee? = some c)
    (given : t.outcome m = .ok (some n)) : n.tempPrimary = some c := by
  cases t <;> cases appoints
  case appointTempPrimary =>
    obtain ⟨-, version, -, eq⟩ := toRoster_of_only rfl given
    rw [eq]
  case appointTempPrimaryBy =>
    obtain ⟨-, version, -, eq⟩ := toRoster_of_only rfl given
    rw [eq]

/-- Where a transition appoints nobody, there is no temporary primary after it if there was none
before, or if the call loses it. -/
lemma tempPrimary_eq_none_iff (wf : m.WellFormed) (quiet : t.choosesPrimary = false)
    (nobody : t.appointee? = none) (given : t.outcome m = .ok (some n)) :
    n.tempPrimary = none ↔ m.tempPrimary = none ∨ t.Loses m := by
  have moving : ∀ id, t ≠ .appointTempPrimaryBy id 0 := by
    rintro id rfl
    cases nobody
  rcases outcome_cases given with rfl | ⟨a, next, version, step, after, eq⟩
  · have keeps : ¬t.Loses n := fun loses => loses.2.2 given
    rw [or_iff_left keeps]
  · have temp : n.tempPrimary = if t.keepsTempPrimary then m.tempPrimary else none := by
      rw [eq]
      show next.tempPrimary = _
      exact tempPrimary_of_step wf quiet nobody step
    rw [temp]
    cases keeps : t.keepsTempPrimary with
    | true =>
      have kept : ¬t.Loses m := by
        rintro ⟨clears, -⟩
        rw [keeps] at clears
        cases clears
      rw [or_iff_left kept, if_pos rfl]
    | false =>
      -- a step is never a call that leaves all as it is, since it raises the version
      have ne : n ≠ m := by
        rintro rfl
        have raised := Version.lt_of_after (raises_of_step wf moving step) after
        rw [eq] at raised
        exact lt_irrefl _ raised
      have lost : t.Loses m := by
        refine ⟨keeps, nobody, ?_⟩
        rw [given]
        simpa using ne
      simp [lost]

/-- The primary that loses an election becomes a secondary if there was no temporary primary, and
inactive if there was one. -/
lemma primary_of_elected (wf : m.WellFormed) (held : c ∈ m.secondaries)
    (elected : outcome (.electPrimary c) m = .ok (some n)) :
    (m.primary ∈ n.secondaries ↔ m.tempPrimary = none) ∧
      (m.primary ∈ n.inactive ↔ m.tempPrimary ≠ none) := by
  have other : m.primary ≠ c := by
    rintro rfl
    exact wf.primary_notMem .secondary held
  have notSecondary : m.primary ∉ m.secondaries := wf.primary_notMem .secondary
  have notInactive : m.primary ∉ m.inactive := wf.primary_notMem .inactive
  cases temp : m.tempPrimary with
  | none =>
    have step : effect m (.electPrimary c) = .step .epoch (m.handOver c) := by
      simp [effect, Effect.only, other, held, temp]
    obtain ⟨version, -, eq⟩ := toRoster_of_step step elected
    simp [eq, Roster.handOver, Roster.cleared, notInactive]
  | some id =>
    have step : effect m (.electPrimary c) = .step .epoch (m.takeOver c) := by
      simp [effect, Effect.only, other, held, temp]
    obtain ⟨version, -, eq⟩ := toRoster_of_step step elected
    simp [eq, Roster.takeOver, Roster.cleared, notSecondary]

end Transition

namespace Run

variable {m n : ReplicaSet} {ts : List Transition}

/-- Some call of the run loses the temporary primary, and none after it appoints one. -/
def LosesTempPrimary (m : ReplicaSet) (ts : List Transition) : Prop :=
  ∃ t k after, CalledOn m ts t k after ∧ t.Loses k ∧ ∀ u ∈ after, u.appointee? = none

/-- The last transition of a run loses the temporary primary itself, or keeps what was lost. -/
lemma losesTempPrimary_snoc {t : Transition} {k : ReplicaSet} (run : Run m ts k) :
    LosesTempPrimary m (ts ++ [t]) ↔
      t.appointee? = none ∧ (LosesTempPrimary m ts ∨ t.Loses k) := by
  unfold LosesTempPrimary
  simp only [calledOn_snoc run]
  constructor
  · rintro ⟨u, j, after, ⟨rfl, rfl, rfl⟩ | ⟨rest, rfl, called⟩, loses, nobody⟩
    · exact ⟨loses.2.1, .inr loses⟩
    · exact ⟨nobody t (by simp), .inl ⟨u, j, rest, called, loses,
        fun v mem => nobody v (List.mem_append_left _ mem)⟩⟩
  · rintro ⟨nobody, ⟨u, j, rest, called, loses, none⟩ | loses⟩
    · refine ⟨u, j, rest ++ [t], .inr ⟨rest, rfl, called⟩, loses, ?_⟩
      intro v mem
      rcases List.mem_append.1 mem with mem | mem
      · exact none v mem
      · exact List.mem_singleton.1 mem ▸ nobody
    · exact ⟨t, k, [], .inl ⟨rfl, rfl, rfl⟩, loses, nofun⟩

/-- A run that does not decide who is primary ends without a temporary primary exactly if it loses
the one that it starts with. -/
lemma tempPrimary_eq_none_iff (run : Run m ts n) (wf : m.WellFormed)
    (quiet : ∀ t ∈ ts, t.choosesPrimary = false) (start : m.tempPrimary ≠ none) :
    n.tempPrimary = none ↔ LosesTempPrimary m ts := by
  induction run with
  | nil =>
    refine iff_of_false start ?_
    rintro ⟨t, k, after, called, -⟩
    exact not_calledOn_nil called
  | @snoc ts t k n run given ih =>
    have before := ih fun t mem => quiet t (List.mem_append_left _ mem)
    have last : t.choosesPrimary = false := quiet t (by simp)
    rw [losesTempPrimary_snoc run, ← before]
    -- an appointment makes up for whatever was lost before it
    cases appoints : t.appointee? with
    | some c => simp [Transition.tempPrimary_of_appointee appoints given]
    | none =>
      rw [Transition.tempPrimary_eq_none_iff (run.wellFormed wf) last appoints given]
      simp

/-- A run that chooses no primary keeps it. -/
lemma primary_of_quiet (run : Run m ts n) (wf : m.WellFormed)
    (quiet : ∀ t ∈ ts, t.choosesPrimary = false) : n.primary = m.primary := by
  induction run with
  | nil => rfl
  | @snoc ts t k n run given ih =>
    have before := ih fun t mem => quiet t (List.mem_append_left _ mem)
    have last : t.choosesPrimary = false := quiet t (by simp)
    exact (Transition.primary_of_quiet (run.wellFormed wf) last given).trans before

end Run

/-- A primary that was bypassed by a temporary primary becomes inactive when a secondary is elected,
and no secondary, exactly if no call since has lost the temporary primary without another one being
appointed. Otherwise it becomes a secondary. -/
theorem bypassed_primary_inactive_iff {m start k n : ReplicaSet} {ts : List Transition}
    {t c : InstanceId} (wf : m.WellFormed)
    (appointed : Transition.outcome (.appointTempPrimary t) m = .ok (some start))
    (run : Run start ts k) (quiet : ∀ u ∈ ts, u.choosesPrimary = false)
    (held : c ∈ k.secondaries)
    (elected : Transition.outcome (.electPrimary c) k = .ok (some n)) :
    (m.primary ∈ n.inactive ∧ m.primary ∉ n.secondaries ↔ ¬Run.LosesTempPrimary start ts) ∧
    (m.primary ∈ n.secondaries ↔ Run.LosesTempPrimary start ts) := by
  have start_wf : start.WellFormed := Transition.wellFormed_of_outcome wf appointed
  have temp : start.tempPrimary = some t := Transition.tempPrimary_of_appointee rfl appointed
  have same : k.primary = m.primary :=
    (run.primary_of_quiet start_wf quiet).trans (Transition.primary_of_quiet wf rfl appointed)
  have lost : k.tempPrimary = none ↔ Run.LosesTempPrimary start ts :=
    run.tempPrimary_eq_none_iff start_wf quiet (by simp [temp])
  obtain ⟨secondary, inactive⟩ :=
    Transition.primary_of_elected (run.wellFormed start_wf) held elected
  rw [← same, inactive, secondary, ← lost]
  exact ⟨and_self_iff, Iff.rfl⟩

/-- A joining secondary is made inactive in the way that keeps the temporary primary. -/
theorem bypassed_primary_inactive_iff_kept :
    ∃ m start k n : ReplicaSet, Content.decode "1,0,1,-1,2:3,,,4,-1,-1" = .ok m ∧ m.WellFormed ∧
      Transition.outcome (.appointTempPrimary 2) m = .ok (some start) ∧
      Run start [.aliveToInactive 4] k ∧
      Transition.outcome (.electPrimary 3) k = .ok (some n) ∧
      ¬Run.LosesTempPrimary start [.aliveToInactive 4] ∧
      m.primary ∈ n.inactive ∧ m.primary ∉ n.secondaries := by
  let m : ReplicaSet := .ofRoster
    { version := ⟨1, 0⟩, primary := 1, secondaries := .ofList [2, 3], joining := .ofList [4] }
  let start : ReplicaSet := .ofRoster { m with version := ⟨1, 4⟩, tempPrimary := some 2 }
  let k : ReplicaSet := .ofRoster
    { version := ⟨1, 5⟩, primary := 1, tempPrimary := some 2, secondaries := .ofList [2, 3],
      inactive := .ofList [4] }
  let n : ReplicaSet := .ofRoster
    { version := ⟨2, 0⟩, primary := 3, secondaries := .ofList [2], inactive := .ofList [1, 4] }
  have content : Content.decode "1,0,1,-1,2:3,,,4,-1,-1" = .ok m := by rfl
  have wf : m.WellFormed := by decide
  have appointed : Transition.outcome (.appointTempPrimary 2) m = .ok (some start) := by rfl
  have run : Run start [.aliveToInactive 4] k := .snoc .nil rfl
  have elected : Transition.outcome (.electPrimary 3) k = .ok (some n) := by rfl
  have kept : ¬Run.LosesTempPrimary start [.aliveToInactive 4] := by
    rintro ⟨t, j, after, called, ⟨keeps, -⟩, -⟩
    rcases (Run.calledOn_snoc .nil).1 called with ⟨-, rfl, -⟩ | ⟨rest, -, called⟩
    · cases keeps
    · exact Run.not_calledOn_nil called
  obtain ⟨demoted, -⟩ :=
    bypassed_primary_inactive_iff wf appointed run (by decide) (c := 3) (by decide) elected
  exact ⟨m, start, k, n, content, wf, appointed, run, elected, kept, demoted.2 kept⟩

/-- A joining secondary is made inactive in the way that clears the temporary primary, and the
election makes the bypassed primary a secondary. -/
theorem bypassed_primary_stays_electable :
    ∃ m start k n : ReplicaSet, Content.decode "1,0,1,-1,2:3,,,4,-1,-1" = .ok m ∧ m.WellFormed ∧
      2 ∈ m.secondaries ∧ Transition.outcome (.appointTempPrimary 2) m = .ok (some start) ∧
      Run start [.joiningToInactive 4] k ∧ 2 ∈ k.secondaries ∧
      Transition.outcome (.electPrimary 2) k = .ok (some n) ∧
      m.primary ∉ n.inactive ∧ m.primary ∈ n.secondaries := by
  let m : ReplicaSet := .ofRoster
    { version := ⟨1, 0⟩, primary := 1, secondaries := .ofList [2, 3], joining := .ofList [4] }
  let start : ReplicaSet := .ofRoster { m with version := ⟨1, 4⟩, tempPrimary := some 2 }
  let k : ReplicaSet := .ofRoster
    { version := ⟨1, 5⟩, primary := 1, secondaries := .ofList [2, 3], inactive := .ofList [4] }
  let n : ReplicaSet := .ofRoster
    { version := ⟨2, 0⟩, primary := 2, secondaries := .ofList [1, 3], inactive := .ofList [4] }
  have content : Content.decode "1,0,1,-1,2:3,,,4,-1,-1" = .ok m := by rfl
  have wf : m.WellFormed := by decide
  have appointed : Transition.outcome (.appointTempPrimary 2) m = .ok (some start) := by rfl
  have run : Run start [.joiningToInactive 4] k := .snoc .nil rfl
  have elected : Transition.outcome (.electPrimary 2) k = .ok (some n) := by rfl
  exact ⟨m, start, k, n, content, wf, by decide, appointed, run, by decide, elected, by decide,
    by decide⟩

end ReplicaQuorum
