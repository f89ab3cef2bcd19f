import ReplicaQuorum.Proofs.Transition.Change
import ReplicaQuorum.ReplicaSet.Content

/-!
# Runs

A run leads from a replica set to another one by transitions, each of which gives the replica set
that the next one starts from. Every step makes an admissible change, so it keeps a well formed
replica set well formed, and so does every run.
-/

namespace ReplicaQuorum

namespace Roster

variable {r next : Roster} {c : Change} {a : Advance}

/-- Well-formedness does not depend on the version. -/
lemma WellFormed.withVersion (wf : r.WellFormed) (version : Version) :
    { r with version }.WellFormed :=
  ⟨wf.primary_notMem, wf.disjoint, wf.primaryCandidate_mem, wf.secondaryCandidate_ne,
    wf.secondaryCandidate_notMem⟩

/-- An admissible change leaves no instance with two roles. -/
theorem WellFormed.of_makes (wf : r.WellFormed) (admissible : c.Admissible r)
    (makes : c.Makes r a next) : next.WellFormed where
  primary_notMem role mem := by
    rw [makes.primary_eq] at mem
    rcases (makes.moves role c.primary).1 mem with ⟨mem, stays⟩ | ⟨enters, -⟩
    · rcases admissible.primary with same | leaves
      · exact wf.primary_notMem role (same ▸ mem)
      · exact stays leaves
    · exact admissible.primary_notMem enters
  disjoint left right id memLeft memRight := by
    -- whoever enters a role has left the others, or held none
    rcases (makes.moves left id).1 memLeft with ⟨memLeft, stays⟩ | ⟨enters, rfl⟩
    · rcases (makes.moves right id).1 memRight with ⟨memRight, -⟩ | ⟨enters, -⟩
      · exact wf.disjoint left right id memLeft memRight
      · rcases admissible.entering id enters with leaves | notMem
        · exact absurd leaves stays
        · exact absurd memLeft (notMem left)
    · rcases (makes.moves right id).1 memRight with ⟨memRight, stays⟩ | ⟨-, rfl⟩
      · rcases admissible.entering id enters with leaves | notMem
        · exact absurd leaves stays
        · exact absurd memRight (notMem right)
      · rfl
  primaryCandidate_mem id chosen := by
    rw [makes.primaryCandidate_eq] at chosen
    obtain ⟨mem, nobody⟩ := admissible.primaryCandidate id chosen
    exact (makes.moves .secondary id).2 (.inl ⟨mem, by simp [nobody]⟩)
  secondaryCandidate_ne id chosen := by
    rw [makes.secondaryCandidate_eq] at chosen
    obtain ⟨unknown, -, same⟩ := admissible.secondaryCandidate id chosen
    rw [makes.primary_eq, same]
    exact Ne.symm (contains_eq_false_iff.1 unknown).1
  secondaryCandidate_notMem id chosen role mem := by
    rw [makes.secondaryCandidate_eq] at chosen
    obtain ⟨unknown, nobody, -⟩ := admissible.secondaryCandidate id chosen
    rcases (makes.moves role id).1 mem with ⟨mem, -⟩ | ⟨enters, -⟩
    · exact (contains_eq_false_iff.1 unknown).2.1 role mem
    · simp [nobody] at enters

end Roster

namespace Transition

variable {t : Transition} {m n : ReplicaSet}

/-- What a transition can give: what it started from, if there is nothing to change, or the replica
set of its step at the version it moves on to, marked anew or as before. -/
inductive Gives (t : Transition) (m : ReplicaSet) : ReplicaSet → Prop where
  | unchanged (effect : t.effect m = .unchanged) : Gives t m m
  | step {a next version} (effect : t.effect m = .step a next)
    (after : m.version.after a = .ok version) : Gives t m (.ofRoster { next with version })
  | markedStep {a next version} (effect : t.effect m = .markedStep a next)
    (after : m.version.after a = .ok version) :
    Gives t m { ReplicaSet.ofRoster { next with version } with quorumUpdated := m.quorumUpdated }

/-- A transition gives its result in one of these ways. -/
lemma gives_of_outcome (given : t.outcome m = .ok (some n)) : t.Gives m n := by
  unfold outcome at given
  cases eq : t.effect m with
  | declined => simp [eq] at given
  | unchanged =>
    simp only [eq, Except.ok.injEq, Option.some.injEq] at given
    exact given ▸ .unchanged eq
  | refused error => simp [eq] at given
  | step a next =>
    cases after : m.version.after a with
    | error overflow => simp [eq, after] at given
    | ok version =>
      simp only [eq, after, Except.ok.injEq, Option.some.injEq] at given
      exact given ▸ .step eq after
  | markedStep a next =>
    cases after : m.version.after a with
    | error overflow => simp [eq, after] at given
    | ok version =>
      simp only [eq, after, Except.ok.injEq, Option.some.injEq] at given
      exact given ▸ .markedStep eq after

/-- A transition that gives a replica set either leaves the one it started from as it was, or makes
a step. -/
lemma outcome_cases (h : t.outcome m = .ok (some n)) :
    n = m ∨ ∃ a next version, (t.effect m).next? = some (a, next) ∧
      m.version.after a = .ok version ∧ n.toRoster = { next with version } := by
  cases gives_of_outcome h with
  | unchanged => exact .inl rfl
  | step effect after => exact .inr ⟨_, _, _, by rw [effect]; rfl, after, rfl⟩
  | markedStep effect after => exact .inr ⟨_, _, _, by rw [effect]; rfl, after, rfl⟩

/-- A step leads to the replica set of its roster, at the version it moves on to. -/
lemma outcome_of_step {a : Advance} {next : Roster} {version : Version}
    (step : t.effect m = .step a next) (after : m.version.after a = .ok version) :
    t.outcome m = .ok (some (.ofRoster { next with version })) := by
  simp only [outcome, step, after]

/-- A replica set that a step leads to has the roster of the step, at the version it moves on to. -/
lemma toRoster_of_step {a : Advance} {next : Roster} (step : t.effect m = .step a next)
    (given : t.outcome m = .ok (some n)) :
    ∃ version, m.version.after a = .ok version ∧ n.toRoster = { next with version } := by
  cases gives_of_outcome given with
  | unchanged effect => cases effect.symm.trans step
  | step effect after =>
    cases effect.symm.trans step
    exact ⟨_, after, rfl⟩
  | markedStep effect => cases effect.symm.trans step

/-- The same where the step is made under a condition, which then holds. -/
lemma toRoster_of_only {condition : Bool} {a : Advance} {next : Roster}
    (only : t.effect m = .only condition (.step a next)) (given : t.outcome m = .ok (some n)) :
    condition ∧ ∃ version, m.version.after a = .ok version ∧
      n.toRoster = { next with version } := by
  cases condition with
  | false =>
    unfold outcome at given
    rw [only] at given
    cases given
  | true => exact ⟨rfl, toRoster_of_step only given⟩

/-- A transition that is not refused gives an answer where the version has room for its step. -/
lemma exists_outcome (accepted : ∀ e, t.effect m ≠ .refused e)
    (room : ∀ a next, (t.effect m).next? = some (a, next) →
      ∃ version, m.version.after a = .ok version) :
    ∃ result, t.outcome m = .ok result := by
  unfold outcome
  cases eq : t.effect m with
  | declined => exact ⟨none, rfl⟩
  | unchanged => exact ⟨some m, rfl⟩
  | refused e => exact absurd eq (accepted e)
  | step a next =>
    obtain ⟨version, after⟩ := room a next (by rw [eq]; rfl)
    exact ⟨_, by simp only [after]; rfl⟩
  | markedStep a next =>
    obtain ⟨version, after⟩ := room a next (by rw [eq]; rfl)
    exact ⟨_, by simp only [after]; rfl⟩

/-- A transition of a well formed replica set gives a well formed one. -/
theorem wellFormed_of_outcome (wf : m.WellFormed) (h : t.outcome m = .ok (some n)) :
    n.WellFormed := by
  rcases outcome_cases h with rfl | ⟨a, next, version, step, -, eq⟩
  · exact wf
  · rw [eq]
    have next_wf := wf.of_makes (effect_admissible wf step) (effect_makes wf step)
    exact next_wf.withVersion version

end Transition

/-- A run of transitions from `m`: each of them gives the replica set that the next one starts from.
Transitions that give none leave it where it is and have no part in a run. -/
inductive Run (m : ReplicaSet) : List Transition → ReplicaSet → Prop where
  | nil : Run m [] m
  | snoc {ts t k n} : Run m ts k → t.outcome k = .ok (some n) → Run m (ts ++ [t]) n

namespace Run

variable {m n : ReplicaSet} {ts : List Transition}

/-- What every transition keeps is kept by every run. -/
lemma keeps {P : ReplicaSet → Prop} (run : Run m ts n) (start : P m)
    (step : ∀ t k l, P k → Transition.outcome t k = .ok (some l) → P l) : P n := by
  induction run with
  | nil => exact start
  | snoc _ h ih => exact step _ _ _ ih h

/-- A run from a well formed replica set stays well formed. -/
lemma wellFormed (run : Run m ts n) (wf : m.WellFormed) : n.WellFormed :=
  run.keeps wf fun _ _ _ => Transition.wellFormed_of_outcome

end Run

/-- A replica set is built from a roster if that is well formed. -/
lemma ReplicaSet.build_eq_ok_iff {r : Roster} {m : ReplicaSet} :
    ReplicaSet.build r = .ok m ↔ r.WellFormed ∧ m = ofRoster r := by
  rw [← Roster.violation?_eq_none_iff, build]
  cases r.violation? with
  | none => simp [eq_comm]
  | some violation => simp

/-- A replica set that a content describes was built from the roster that it lists. -/
lemma Content.build_of_decode {content : String} {m : ReplicaSet} (h : decode content = .ok m) :
    ∃ r, readRoster content = .ok r ∧ ReplicaSet.build r = .ok m := by
  unfold decode at h
  cases read : readRoster content with
  | error e => rw [read] at h; cases h
  | ok r =>
    simp only [read, bind, Except.bind] at h
    cases built : ReplicaSet.build r with
    | error violation => rw [built] at h; cases h
    | ok k =>
      rw [built] at h
      cases h
      exact ⟨r, rfl, built⟩

namespace ReplicaSet

/-- A replica set that was built, or that a run leads to from one that was. -/
def Reachable (m : ReplicaSet) : Prop :=
  ∃ r start ts, build r = .ok start ∧ Run start ts m

/-- What a run can lead to is well formed. -/
lemma Reachable.wellFormed {m : ReplicaSet} (reached : m.Reachable) : m.WellFormed := by
  obtain ⟨r, start, ts, built, run⟩ := reached
  obtain ⟨wf, rfl⟩ := build_eq_ok_iff.1 built
  exact run.wellFormed wf

end ReplicaSet

/-- No instance ever holds two roles: what is built or decoded is well formed, every transition
keeps it so, and so does every run, in whose replica sets the filled roles are the members. -/
theorem wellFormed_throughout :
    (∀ r m, ReplicaSet.build r = .ok m → m.WellFormed) ∧
    (∀ content m, Content.decode content = .ok m → m.WellFormed) ∧
    (∀ (t : Transition) (m n : ReplicaSet), m.WellFormed → t.outcome m = .ok (some n) →
      n.WellFormed) ∧
    (∀ (m : ReplicaSet) ts n, m.WellFormed → Run m ts n →
      n.WellFormed ∧ n.size = n.members.size ∧ n.aliveSize = 1 + n.aliveSecondaries.size) := by
  have built : ∀ r m, ReplicaSet.build r = .ok m → m.WellFormed := by
    intro r m h
    obtain ⟨wf, rfl⟩ := ReplicaSet.build_eq_ok_iff.1 h
    exact wf
  refine ⟨built, ?_, fun t m n => Transition.wellFormed_of_outcome, ?_⟩
  · intro content m h
    obtain ⟨r, -, h⟩ := Content.build_of_decode h
    exact built r m h
  · intro m ts n wf run
    have wf := run.wellFormed wf
    exact ⟨wf, wf.size_members.symm, wf.aliveSize_eq⟩

/-- A registered candidate takes the place of a secondary, and then another secondary is elected. -/
theorem wellFormed_throughout_replacement :
    ∃ m n : ReplicaSet, Content.decode "1,0,1,-1,2:3,,,,-1,4" = .ok m ∧ m.WellFormed ∧
      Run m [.candidateForMember 4 3, .electPrimary 2] n ∧ n.WellFormed ∧
      n.secondaries = .ofList [1, 4] ∧ n.size = n.members.size ∧
      n.aliveSize = 1 + n.aliveSecondaries.size := by
  obtain ⟨-, decoded, -, ran⟩ := wellFormed_throughout
  let start : ReplicaSet := .ofRoster
    { version := ⟨1, 0⟩, primary := 1, secondaries := .ofList [2, 3], secondaryCandidate := some 4 }
  let replaced : ReplicaSet := .ofRoster
    { version := ⟨1, 1⟩, primary := 1, secondaries := .ofList [2, 4] }
  let elected : ReplicaSet := .ofRoster
    { version := ⟨2, 0⟩, primary := 2, secondaries := .ofList [1, 4] }
  have content : Content.decode "1,0,1,-1,2:3,,,,-1,4" = .ok start := by rfl
  have replace : Transition.outcome (.candidateForMember 4 3) start = .ok (some replaced) := by rfl
  have elect : Transition.outcome (.electPrimary 2) replaced = .ok (some elected) := by rfl
  have run : Run start [.candidateForMember 4 3, .electPrimary 2] elected :=
    .snoc (.snoc .nil replace) elect
  have wf := decoded _ _ content
  obtain ⟨wf', size, aliveSize⟩ := ran _ _ _ wf run
  exact ⟨start, elected, content, wf, run, wf', rfl, size, aliveSize⟩

end ReplicaQuorum
