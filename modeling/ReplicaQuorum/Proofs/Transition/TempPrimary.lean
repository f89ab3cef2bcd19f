import ReplicaQuorum.Proofs.Transition.Trace
import ReplicaQuorum.ReplicaSet.Broadcast
import ReplicaQuorum.ReplicaSet.Liveness

/-!
# The temporary primary among the secondaries

A temporary primary is a secondary, and the counts of a broadcast and the first statuses rely on it.
Of all transitions only one can leave a temporary primary that is no secondary: the one that makes
the temporary primary itself inactive. A run keeps the temporary primary among the secondaries
exactly if it never does that.
-/

namespace ReplicaQuorum

namespace Roster

variable {r : Roster} {id : InstanceId}

/-- The temporary primary, if there is one, is a secondary. -/
def TempPrimaryServes (r : Roster) : Prop :=
  ∀ id, r.tempPrimary = some id → id ∈ r.secondaries

/-- The secondaries besides the temporary primary. -/
def plainSecondaries (r : Roster) : IdSet :=
  match r.tempPrimary with
  | some id => r.secondaries.erase id
  | none => r.secondaries

/-- A write is sent to as many secondaries as there are besides a temporary primary that serves. -/
lemma TempPrimaryServes.broadcastCounts (serves : r.TempPrimaryServes) :
    r.broadcastCounts.secondaries = .ofNat r.plainSecondaries.size := by
  unfold Roster.broadcastCounts plainSecondaries
  cases temp : r.tempPrimary with
  | none => rfl
  | some id =>
    have size := IdSet.size_erase (serves id temp)
    simp only [Option.isSome_some, Bool.toNat_true]
    congr 1
    omega

/-- Every inactive member starts as inactive where the temporary primary serves. -/
lemma TempPrimaryServes.initialStatus? (serves : r.TempPrimaryServes) (wf : r.WellFormed)
    (mem : id ∈ r.inactive) : r.initialStatus? id = some .inactiveSecondary := by
  have primary : r.primary ≠ id := by
    rintro rfl
    exact wf.primary_notMem .inactive mem
  have alone (role : Role) (ne : .inactive ≠ role) : id ∉ r.inRole role :=
    wf.apart .inactive role ne id mem
  have temp : r.tempPrimary ≠ some id := fun temp => alone .secondary nofun (serves id temp)
  have secondary : id ∉ r.secondaries := alone .secondary nofun
  have joining : id ∉ r.joining := alone .joining nofun
  have arbiter : id ∉ r.arbiters := alone .arbiter nofun
  simp only [Roster.initialStatus?, if_neg primary, if_neg temp, if_neg secondary, if_neg joining,
    if_neg arbiter, if_pos mem]

end Roster

namespace Transition

variable {t : Transition} {m n : ReplicaSet} {a : Advance} {next : Roster}

/-- The call makes the temporary primary inactive. -/
def Retires (t : Transition) (r : Roster) : Prop :=
  ∃ id, t = .aliveToInactive id ∧ r.tempPrimary = some id

/-- A step that does not make the temporary primary inactive leaves it among the secondaries. -/
lemma serves_of_step (wf : m.WellFormed) (serves : m.TempPrimaryServes)
    (spared : ¬t.Retires m.toRoster) (step : (t.effect m).next? = some (a, next)) :
    next.TempPrimaryServes := by
  intro x temp
  have makes := effect_makes wf step
  rw [makes.tempPrimary_eq] at temp
  -- nobody enters the secondaries where there is a temporary primary after the step
  refine (makes.moves .secondary x).2 (.inl ?_)
  cases t
  case electPrimary candidate =>
    simp only [change] at temp
    split at temp <;> cases temp
  case arbiterToInactive id =>
    simp only [effect, Effect.next?_whenever, decide_eq_true_eq] at step
    have held : x ∈ m.secondaries := serves x temp
    refine ⟨held, ?_⟩
    intro leaves
    obtain rfl := List.mem_singleton.1 leaves
    exact wf.apart .secondary .arbiter (by decide) x held step.1
  case aliveToInactive id =>
    refine ⟨serves x temp, ?_⟩
    intro leaves
    obtain rfl := List.mem_singleton.1 leaves
    exact spared ⟨x, rfl, temp⟩
  case appointTempPrimary id =>
    simp only [effect, Effect.next?_only, decide_eq_true_eq] at step
    cases temp
    exact ⟨step.1, List.not_mem_nil⟩
  case appointTempPrimaryBy id generations =>
    simp only [effect, Effect.next?_only, decide_eq_true_eq] at step
    cases temp
    exact ⟨step.1, List.not_mem_nil⟩
  case selectPotentialPrimary id =>
    exact ⟨serves x (Option.filter_eq_some_iff.1 temp).1, List.not_mem_nil⟩
  all_goals cases temp

/-- A transition leaves the temporary primary among the secondaries, exactly if it does not make it
inactive. -/
lemma serves_iff_not_retires (wf : m.WellFormed) (serves : m.TempPrimaryServes)
    (given : t.outcome m = .ok (some n)) : n.TempPrimaryServes ↔ ¬t.Retires m.toRoster := by
  constructor
  · rintro served ⟨id, rfl, temp⟩
    have held : id ∈ m.secondaries := serves id temp
    have step : effect m (.aliveToInactive id) = .step (.generations 1)
        { m.cleared with
          tempPrimary := m.tempPrimary
          secondaries := m.secondaries.erase id
          joining := m.joining.erase id
          inactive := m.inactive.insert id } := by
      simp [effect, Effect.whenever, Effect.edit, held]
    obtain ⟨version, -, eq⟩ := toRoster_of_step step given
    rw [eq] at served
    have gone := served id temp
    simp at gone
  · intro spared
    rcases outcome_cases given with rfl | ⟨a, next, version, step, -, eq⟩
    · exact serves
    · have served : next.TempPrimaryServes := serves_of_step wf serves spared step
      rw [eq]
      exact served

end Transition

namespace Run

variable {m n : ReplicaSet} {ts : List Transition}

/-- The run by `ts` from `m` never makes the temporary primary inactive. -/
def SparesTempPrimary (m : ReplicaSet) (ts : List Transition) : Prop :=
  ∀ t k after, CalledOn m ts t k after → ¬t.Retires k.toRoster

/-- The temporary primary is a secondary all along a run exactly if the run never makes it
inactive. -/
lemma serves_iff_spares (run : Run m ts n) (wf : m.WellFormed) (serves : m.TempPrimaryServes) :
    (∀ k, PassesThrough m ts k → k.TempPrimaryServes) ↔ SparesTempPrimary m ts := by
  unfold SparesTempPrimary
  induction run with
  | nil =>
    constructor
    · intro _ t k after called
      exact absurd called not_calledOn_nil
    · intro _ k passed
      rw [passesThrough_nil.1 passed]
      exact serves
  | @snoc ts t k n run given ih =>
    -- the last call is made on what the run before it reaches, where the temporary primary serves
    have reached : PassesThrough m ts k := ⟨ts, [], by simp, run⟩
    simp only [passesThrough_snoc run given, calledOn_snoc run]
    constructor
    · rintro served u j after (⟨rfl, rfl, rfl⟩ | ⟨rest, rfl, called⟩)
      · exact (Transition.serves_iff_not_retires (run.wellFormed wf) (served j (.inl reached))
          given).1 (served n (.inr rfl))
      · exact ih.1 (fun l passed => served l (.inl passed)) u j rest called
    · intro spared
      have before := ih.2 fun u j rest called => spared u j _ (.inr ⟨rest, rfl, called⟩)
      rintro l (passed | rfl)
      · exact before l passed
      · exact (Transition.serves_iff_not_retires (run.wellFormed wf) (before k reached) given).2
          (spared t k [] (.inl ⟨rfl, rfl, rfl⟩))

end Run

/-- From a temporary primary that is a secondary, or none, a run keeps it so all along exactly if it
never makes the temporary primary inactive. Then writes are sent to as many secondaries as there are
besides the temporary primary, and inactive members start as inactive. -/
theorem tempPrimary_serves_iff_spared {m n : ReplicaSet} {ts : List Transition} (wf : m.WellFormed)
    (serves : m.TempPrimaryServes) (run : Run m ts n) :
    ((∀ k, Run.PassesThrough m ts k → k.TempPrimaryServes) ↔ Run.SparesTempPrimary m ts) ∧
    (Run.SparesTempPrimary m ts → ∀ k, Run.PassesThrough m ts k →
      k.broadcastCounts.secondaries = .ofNat k.plainSecondaries.size ∧
      ∀ id ∈ k.inactive, k.initialStatus? id = some .inactiveSecondary) := by
  have all_along := run.serves_iff_spares wf serves
  refine ⟨all_along, ?_⟩
  intro spared k passed
  have served := all_along.2 spared k passed
  refine ⟨served.broadcastCounts, ?_⟩
  intro id mem
  exact served.initialStatus? (Run.wellFormed_of_passesThrough wf passed) mem

/-- Another secondary is lost while a temporary primary serves. -/
theorem tempPrimary_serves_iff_spared_degraded :
    ∃ m n : ReplicaSet, Content.decode "1,0,1,-1,2:3:4,5,,,-1,-1" = .ok m ∧ m.WellFormed ∧
      m.TempPrimaryServes ∧ Run m [.appointTempPrimary 2, .aliveToInactive 3] n ∧
      n.tempPrimary = some 2 ∧ n.TempPrimaryServes ∧ n.broadcastCounts.secondaries = 1 ∧
      n.initialStatus? 3 = some .inactiveSecondary := by
  let m : ReplicaSet := .ofRoster
    { version := ⟨1, 0⟩, primary := 1, secondaries := .ofList [2, 3, 4], arbiters := .ofList [5] }
  let k : ReplicaSet := .ofRoster { m with version := ⟨1, 5⟩, tempPrimary := some 2 }
  let n : ReplicaSet := .ofRoster
    { version := ⟨1, 6⟩, primary := 1, tempPrimary := some 2, secondaries := .ofList [2, 4],
      arbiters := .ofList [5], inactive := .ofList [3] }
  have content : Content.decode "1,0,1,-1,2:3:4,5,,,-1,-1" = .ok m := by rfl
  have wf : m.WellFormed := by decide
  have serves : m.TempPrimaryServes := nofun
  have first : Run m [.appointTempPrimary 2] k := .snoc .nil rfl
  have run : Run m [.appointTempPrimary 2, .aliveToInactive 3] n := .snoc first rfl
  have passed : Run.PassesThrough m [.appointTempPrimary 2, .aliveToInactive 3] n :=
    ⟨_, [], rfl, run⟩
  have spared : Run.SparesTempPrimary m [.appointTempPrimary 2, .aliveToInactive 3] := by
    rintro t j after called ⟨id, rfl, temp⟩
    rcases (Run.calledOn_snoc first).1 called with ⟨-, same, rfl⟩ | ⟨rest, -, called⟩
    · cases same
      cases temp
    · rcases (Run.calledOn_snoc .nil).1 called with ⟨-, same, -⟩ | ⟨rest, -, called⟩
      · cases same
      · exact Run.not_calledOn_nil called
  obtain ⟨all_along, sound⟩ := tempPrimary_serves_iff_spared wf serves run
  obtain ⟨counts, statuses⟩ := sound spared n passed
  exact ⟨m, n, content, wf, serves, run, rfl, all_along.2 spared n passed, counts,
    statuses 3 (by decide)⟩

/-- A temporary primary that is made inactive stays the temporary primary: a live status for an
inactive member, and a write that completes without the one secondary there is. -/
theorem retired_tempPrimary_not_secondary :
    ∃ m n : ReplicaSet, Content.decode "1,0,1,-1,2:3,4,,,-1,-1" = .ok m ∧ m.WellFormed ∧
      m.TempPrimaryServes ∧ Run m [.appointTempPrimary 2, .aliveToInactive 2] n ∧
      n.tempPrimary = some 2 ∧ 2 ∉ n.secondaries ∧
      2 ∈ n.inactive ∧ n.initialStatus? 2 = some .tempPrimary ∧
      n.plainSecondaries.size = 1 ∧ n.broadcastCounts.secondaries = 0 ∧
      n.completesWrite 2 ⟨0, 0, 1⟩ = .ok true ∧
      checkWriteQuorum 2 ⟨1, 0, 1⟩ ⟨0, 0, 1⟩ = .ok false := by
  let m : ReplicaSet := .ofRoster
    { version := ⟨1, 0⟩, primary := 1, secondaries := .ofList [2, 3], arbiters := .ofList [4] }
  let n : ReplicaSet := .ofRoster
    { version := ⟨1, 5⟩, primary := 1, tempPrimary := some 2, secondaries := .ofList [3],
      arbiters := .ofList [4], inactive := .ofList [2] }
  have content : Content.decode "1,0,1,-1,2:3,4,,,-1,-1" = .ok m := by rfl
  have wf : m.WellFormed := by decide
  have run : Run m [.appointTempPrimary 2, .aliveToInactive 2] n := .snoc (.snoc .nil rfl) rfl
  exact ⟨m, n, content, wf, nofun, run, rfl, by decide, by decide, by decide, by decide, by rfl,
    by rfl, by rfl⟩

end ReplicaQuorum
