import ReplicaQuorum.Proofs.ReplicaSet.Compare
import ReplicaQuorum.Proofs.Transition.Run

/-!
# Shedding members

A primary that has lost touch with the others can still shed its members one by one. Each one that
it sheds is in use, and costs one generation, so what the generation gains the members in use lose.
The members in use are fewer than the generations by which a temporary primary outruns the primary,
and so nothing that the primary reaches by shedding catches up with a temporary primary.
-/

namespace ReplicaQuorum

/-- The instance that a transition takes out of the members in use. -/
def Transition.shed? : Transition → Option InstanceId
  | removeSecondary id | removeArbiter id => some id
  | arbiterToInactive id | aliveToInactive id | joiningToInactive id => some id
  | _ => none

/-- The secondaries in use are fewer than the generations by which a temporary primary outruns the
primary. -/
lemma Roster.WellFormed.size_aliveSecondaries_lt {r : Roster} (wf : r.WellFormed) :
    r.aliveSecondaries.size < r.outrun := by
  rw [wf.size_aliveSecondaries, outrun, wf.size_allSecondaries]
  omega

namespace Transition

variable {t : Transition} {m n : ReplicaSet} {a : Advance} {next : Roster} {id : InstanceId}

/-- A shedding step takes an instance out of the members in use, for one generation. -/
lemma step_of_shed (wf : m.WellFormed) (shed : t.shed? = some id)
    (step : (t.effect m).next? = some (a, next)) :
    id ∈ m.aliveSecondaries ∧ a = .generations 1 ∧
      next.aliveSecondaries = m.aliveSecondaries.erase id := by
  have makes := effect_makes wf step
  cases t <;> cases shed <;> simp only [effect, Effect.next?_whenever, Effect.next?_only,
    Bool.or_eq_true, decide_eq_true_eq] at step
  -- the guard of each call is the role that its instance is shed from
  case removeSecondary =>
    exact ⟨Roster.mem_aliveSecondaries.2 ⟨.secondary, by decide, step.1⟩, makes.advance_eq,
      makes.moves.aliveSecondaries_eq (.inl rfl)⟩
  case removeArbiter =>
    exact ⟨Roster.mem_aliveSecondaries.2 ⟨.arbiter, by decide, step.1⟩, makes.advance_eq,
      makes.moves.aliveSecondaries_eq (.inl rfl)⟩
  case arbiterToInactive =>
    exact ⟨Roster.mem_aliveSecondaries.2 ⟨.arbiter, by decide, step.1⟩, makes.advance_eq,
      makes.moves.aliveSecondaries_eq (.inr rfl)⟩
  case joiningToInactive =>
    exact ⟨Roster.mem_aliveSecondaries.2 ⟨.joining, by decide, step.1⟩, makes.advance_eq,
      makes.moves.aliveSecondaries_eq (.inr rfl)⟩
  case aliveToInactive =>
    refine ⟨?_, makes.advance_eq, makes.moves.aliveSecondaries_eq (.inr rfl)⟩
    rcases step.1 with held | held
    · exact Roster.mem_aliveSecondaries.2 ⟨.secondary, by decide, held⟩
    · exact Roster.mem_aliveSecondaries.2 ⟨.joining, by decide, held⟩

/-- What a shedding transition adds to the generation it takes from the members in use. -/
lemma generation_add_size_of_shed (wf : m.WellFormed) (shed : t.shed? = some id)
    (given : t.outcome m = .ok (some n)) :
    n.version.epoch = m.version.epoch ∧
      n.version.generation.toNat + n.aliveSecondaries.size
        = m.version.generation.toNat + m.aliveSecondaries.size := by
  rcases outcome_cases given with rfl | ⟨a, next, version, step, after, eq⟩
  · exact ⟨rfl, rfl⟩
  · obtain ⟨held, rfl, alive⟩ := step_of_shed wf shed step
    obtain ⟨epoch, generation⟩ := Version.advance_eq_ok_iff.1 after
    have size := IdSet.size_erase held
    have alive' : n.aliveSecondaries = m.aliveSecondaries.erase id := by
      rw [eq]
      exact alive
    rw [alive', eq]
    refine ⟨epoch, ?_⟩
    show version.generation.toNat + _ = _
    omega

/-- A shedding transition gives an answer where each member in use has a generation left. -/
lemma exists_outcome_of_shed (wf : m.WellFormed) (shed : t.shed? = some id)
    (room : m.version.generation.toNat + m.aliveSecondaries.size < UInt64.size) :
    ∃ result, t.outcome m = .ok result := by
  apply exists_outcome
  · intro e
    cases t <;> cases shed <;> simp only [effect, Effect.only, Effect.whenever] <;> split <;>
      simp [Effect.edit]
  · intro a next step
    obtain ⟨held, rfl, -⟩ := step_of_shed wf shed step
    have size := IdSet.size_erase held
    exact Version.exists_advance (by omega)

end Transition

namespace Run

variable {m k : ReplicaSet} {ts : List Transition}

/-- Along a run of shedding transitions the generation gains what the members in use lose. -/
lemma generation_add_size (run : Run m ts k) (wf : m.WellFormed)
    (sheds : ∀ t ∈ ts, t.shed?.isSome) :
    k.version.epoch = m.version.epoch ∧
      k.version.generation.toNat + k.aliveSecondaries.size
        = m.version.generation.toNat + m.aliveSecondaries.size := by
  induction run with
  | nil => exact ⟨rfl, rfl⟩
  | @snoc ts t l n run given ih =>
    obtain ⟨epoch, sum⟩ := ih fun t mem => sheds t (List.mem_append_left _ mem)
    obtain ⟨id, shed⟩ := Option.isSome_iff_exists.1 (sheds t (by simp))
    obtain ⟨epoch', sum'⟩ := Transition.generation_add_size_of_shed (run.wellFormed wf) shed given
    exact ⟨epoch'.trans epoch, sum'.trans sum⟩

/-- No run of shedding transitions reaches a version that outruns it. -/
lemma version_lt_of_outrun (run : Run m ts k) (wf : m.WellFormed)
    (sheds : ∀ t ∈ ts, t.shed?.isSome) {version : Version}
    (after : m.version.advance m.outrun = .ok version) : k.version < version := by
  obtain ⟨epoch, sum⟩ := run.generation_add_size wf sheds
  obtain ⟨epoch', generation⟩ := Version.advance_eq_ok_iff.1 after
  -- the generation has gained no more than there was to shed
  have fewer := wf.size_aliveSecondaries_lt
  refine .inr ⟨epoch.trans epoch'.symm, UInt64.lt_iff_toNat_lt.2 ?_⟩
  omega

end Run

/-- A temporary primary outranks whatever the primary reaches by shedding members, and so does the
outcome of a pre-election: no run of shedding transitions overflows, and each replica set of it is
below both, with no alarm where they are compared. -/
theorem tempPrimary_outruns_shedding {m : ReplicaSet} {id : InstanceId} (wf : m.WellFormed)
    (held : id ∈ m.secondaries)
    (fits : m.version.generation.toNat + m.outrun < UInt64.size) (x : InstanceId) :
    ∃ appointed selected,
      Transition.outcome (.appointTempPrimary id) m = .ok (some appointed) ∧
      Transition.outcome (.selectPotentialPrimary x) m = .ok (some selected) ∧
      ∀ ts k, Run m ts k → (∀ t ∈ ts, t.shed?.isSome) →
        (∀ t : Transition, t.shed?.isSome → ∃ result, t.outcome k = .ok result) ∧
        (k.version < appointed.version ∧ appointed.compareTo k = .ok .gt ∧
          k.compareTo appointed = .ok .lt) ∧
        (k.version < selected.version ∧ selected.compareTo k = .ok .gt ∧
          k.compareTo selected = .ok .lt) := by
  obtain ⟨version, after⟩ := Version.exists_advance fits
  have above {n : ReplicaSet} (reaches : n.version = version) {ts k} (run : Run m ts k)
      (sheds : ∀ t ∈ ts, t.shed?.isSome) : k.version < n.version ∧
        n.compareTo k = .ok .gt ∧ k.compareTo n = .ok .lt := by
    have below := reaches ▸ run.version_lt_of_outrun wf sheds after
    exact ⟨below, ReplicaSet.compareTo_eq_gt_iff.2 below, ReplicaSet.compareTo_eq_lt_iff.2 below⟩
  let appointed : ReplicaSet := .ofRoster { m.cleared with tempPrimary := some id, version }
  let selected : ReplicaSet :=
    .ofRoster { m.cleared with tempPrimary := m.tempPrimary.filter (· = x), version }
  refine ⟨appointed, selected, ?_, ?_, ?_⟩
  · simp only [Transition.outcome, Transition.effect, Effect.only, held, decide_true, if_true,
      Version.after, after, appointed]
  · simp only [Transition.outcome, Transition.effect, Version.after, after, selected]
  · intro ts k run sheds
    refine ⟨?_, above rfl run sheds, above rfl run sheds⟩
    intro t shed
    obtain ⟨id, shed⟩ := Option.isSome_iff_exists.1 shed
    obtain ⟨-, sum⟩ := run.generation_add_size wf sheds
    have fewer := wf.size_aliveSecondaries_lt
    exact Transition.exists_outcome_of_shed (run.wellFormed wf) shed (by omega)

/-- A primary that sheds all four members in use still ranks below a temporary primary. -/
theorem tempPrimary_outruns_shedding_all :
    ∃ m k appointed : ReplicaSet, Content.decode "1,5,1,-1,2:3,4,6,5,-1,-1" = .ok m ∧ m.WellFormed ∧
      Transition.outcome (.appointTempPrimary 2) m = .ok (some appointed) ∧
      Run m [.aliveToInactive 2, .removeArbiter 4, .joiningToInactive 5, .removeSecondary 3] k ∧
      k.aliveSecondaries = ∅ ∧ k.version = ⟨1, 9⟩ ∧ appointed.version = ⟨1, 11⟩ ∧
      appointed.compareTo k = .ok .gt := by
  let m : ReplicaSet := .ofRoster
    { version := ⟨1, 5⟩, primary := 1, secondaries := .ofList [2, 3], arbiters := .ofList [4],
      inactive := .ofList [6], joining := .ofList [5] }
  let k : ReplicaSet := .ofRoster
    { version := ⟨1, 9⟩, primary := 1, inactive := .ofList [2, 5, 6] }
  have content : Content.decode "1,5,1,-1,2:3,4,6,5,-1,-1" = .ok m := by rfl
  have wf : m.WellFormed := by decide
  have held : 2 ∈ m.secondaries := by decide
  have fits : m.version.generation.toNat + m.outrun < UInt64.size := by decide
  have run : Run m [.aliveToInactive 2, .removeArbiter 4, .joiningToInactive 5, .removeSecondary 3]
      k := .snoc (.snoc (.snoc (.snoc .nil rfl) rfl) rfl) rfl
  obtain ⟨appointed, selected, given, -, below⟩ := tempPrimary_outruns_shedding wf held fits 3
  obtain ⟨-, ⟨-, greater, -⟩, -⟩ := below _ k run (by decide)
  cases given
  exact ⟨m, k, _, content, wf, by rfl, run, by rfl, rfl, by rfl, greater⟩

end ReplicaQuorum
