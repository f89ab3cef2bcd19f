import Mathlib.Algebra.GroupWithZero.Nat
import Mathlib.Data.List.DropRight
import ReplicaQuorum.Proofs.Transition.Run
import ReplicaQuorum.Proofs.Version

/-!
# Accounting for versions

A version can be told from the transitions that were tried: the epoch counts the elections that
succeeded, and the generation is what the transitions since the last one of these have added. One
lemma says what a single transition adds; the account of a list of transitions follows by induction
on the last of them.
-/

namespace ReplicaQuorum

namespace Transition

/-- The transition elects a primary, by a vote or in a planned switch. -/
def isElection : Transition → Bool
  | electPrimary _ | promoteNominee _ => true
  | _ => false

/-- The generations that a step of the transition adds where it is no election. -/
def added (r : Roster) : Transition → Nat
  | appointTempPrimary _ | selectPotentialPrimary _ => r.size
  | appointTempPrimaryBy _ generations => generations.toNat
  | _ => 1

variable {t : Transition} {m n : ReplicaSet} {r : Roster}

/-- A temporary primary outruns the primary by as many generations as there are members. -/
lemma outrun_eq_size (wf : r.WellFormed) : r.outrun = r.size := by
  rw [Roster.outrun, wf.size_allSecondaries, Roster.size]
  omega

/-- Whatever is no election adds generations and keeps the primary. -/
lemma change_of_not_isElection (wf : r.WellFormed) (other : t.isElection = false) :
    (t.change r).advance = .generations (t.added r) ∧ (t.change r).primary = r.primary := by
  cases t
  case electPrimary => cases other
  case promoteNominee => cases other
  case appointTempPrimary => exact ⟨congrArg Advance.generations (outrun_eq_size wf), rfl⟩
  case selectPotentialPrimary => exact ⟨congrArg Advance.generations (outrun_eq_size wf), rfl⟩
  all_goals exact ⟨rfl, rfl⟩

/-- An election that gives a replica set moves on to the next epoch. -/
lemma nextEpoch_of_isElection (election : t.isElection) (given : t.outcome m = .ok (some n)) :
    m.version.nextEpoch = .ok n.version := by
  obtain ⟨next, version, after, eq⟩ : ∃ (next : Roster) (version : Version),
      m.version.after .epoch = .ok version ∧ n.toRoster = { next with version } := by
    cases t
    case electPrimary id =>
      by_cases same : m.primary = id
      · have step : effect m (.electPrimary id) = .step .epoch m.cleared := if_pos same
        exact ⟨_, toRoster_of_step step given⟩
      · have step : effect m (.electPrimary id) = .only (id ∈ m.secondaries)
            (.step .epoch (if m.tempPrimary.isSome then m.takeOver id else m.handOver id)) :=
          if_neg same
        exact ⟨_, (toRoster_of_only step given).2⟩
    case promoteNominee id => exact ⟨_, (toRoster_of_only rfl given).2⟩
    all_goals cases election
  rw [eq]
  exact after

end Transition

/-- A transition and the replica set that it is tried on. -/
structure Attempt where
  source : ReplicaSet
  transition : Transition

namespace Attempt

/-- The replica set after the attempt. A transition that gives none, because it does not apply, is
refused or has no version to move on to, leaves the replica set as it was. -/
def target (a : Attempt) : ReplicaSet :=
  match a.transition.outcome a.source with
  | .ok (some n) => n
  | _ => a.source

/-- The attempt gives a replica set. -/
def succeeds (a : Attempt) : Bool :=
  match a.transition.outcome a.source with
  | .ok (some _) => true
  | _ => false

/-- The attempt elects a primary, and succeeds. -/
def elects (a : Attempt) : Bool :=
  a.transition.isElection && a.succeeds

/-- The generations that the attempt adds. One that changes nothing adds none. -/
def generations (a : Attempt) : Nat :=
  if a.target.toRoster = a.source.toRoster then 0 else a.transition.added a.source.toRoster

/-- The attempt moves on to the next epoch, as elections do. -/
structure Renews (a : Attempt) : Prop where
  elects : a.elects
  epoch : a.target.version.epoch.toNat = a.source.version.epoch.toNat + 1
  generation : a.target.version.generation.toNat = 0

/-- The attempt goes on in the same epoch, with the same primary. -/
structure Continues (a : Attempt) : Prop where
  elects : a.elects = false
  epoch : a.target.version.epoch = a.source.version.epoch
  generation : a.target.version.generation.toNat
    = a.source.version.generation.toNat + a.generations
  primary : a.target.primary = a.source.primary

variable {a : Attempt} {n : ReplicaSet}

/-- An attempt that gives a replica set leads to it. -/
lemma target_of_outcome (given : a.transition.outcome a.source = .ok (some n)) : a.target = n := by
  rw [target, given]

/-- An attempt that gives nothing stays in its epoch, with the same primary. -/
lemma continues_of_failure (failed : a.succeeds = false) : a.Continues := by
  have same : a.target = a.source := by
    unfold succeeds at failed
    unfold target
    split at failed
    · cases failed
    · rfl
  refine ⟨?_, ?_, ?_, ?_⟩
  · rw [elects, failed, Bool.and_false]
  · rw [same]
  · rw [generations, same, if_pos rfl, Nat.add_zero]
  · rw [same]

/-- An attempt on a well formed replica set leads to a well formed one. -/
lemma wellFormed_target (wf : a.source.WellFormed) : a.target.WellFormed := by
  unfold target
  split
  · next given => exact Transition.wellFormed_of_outcome wf given
  · exact wf

/-- What is no election goes on in the same epoch, by the generations that it adds. -/
lemma continues_of_not_isElection (wf : a.source.WellFormed)
    (other : a.transition.isElection = false)
    (given : a.transition.outcome a.source = .ok (some n)) : a.Continues := by
  have quiet : a.elects = false := by rw [elects, other, Bool.false_and]
  have reached := target_of_outcome given
  rcases Transition.outcome_cases given with rfl | ⟨advance, next, version, step, after, eq⟩
  · exact ⟨quiet, by rw [reached], by rw [generations, reached, if_pos rfl, Nat.add_zero],
      by rw [reached]⟩
  · have makes := Transition.effect_makes wf step
    obtain ⟨by_added, primary⟩ := Transition.change_of_not_isElection wf other
    rw [makes.advance_eq, by_added] at after
    obtain ⟨epoch, generation⟩ := Version.advance_eq_ok_iff.1 after
    refine ⟨quiet, ?_, ?_, ?_⟩
    · rw [reached, eq]
      exact epoch
    · rw [generations]
      split
      · next same => rw [same, Nat.add_zero]
      · rw [reached, eq]
        exact generation
    · rw [reached, eq, ← primary]
      exact makes.primary_eq

/-- Every attempt moves on to the next epoch or goes on in the same one. -/
theorem renews_or_continues (a : Attempt) (wf : a.source.WellFormed) :
    a.Renews ∨ a.Continues := by
  cases success : a.succeeds with
  | false => exact .inr (continues_of_failure success)
  | true =>
    obtain ⟨n, given⟩ : ∃ n, a.transition.outcome a.source = .ok (some n) := by
      unfold succeeds at success
      split at success
      · next n given => exact ⟨n, given⟩
      · cases success
    have reached := target_of_outcome given
    cases election : a.transition.isElection with
    | true =>
      obtain ⟨epoch, generation⟩ :=
        Version.nextEpoch_eq_ok_iff.1 (Transition.nextEpoch_of_isElection election given)
      refine .inl ⟨?_, ?_, ?_⟩
      · rw [elects, election, success, Bool.and_self]
      · rw [reached, epoch]
      · rw [reached, generation, UInt64.toNat_zero]
    | false =>
      refine .inr (continues_of_not_isElection wf election given)

/-- The attempts since the last election. -/
def sinceElection (tried : List Attempt) : List Attempt :=
  tried.rtakeWhile fun a => !a.elects

end Attempt

namespace ReplicaSet

variable {m n : ReplicaSet} {ts : List Transition}

/-- The replica set after some transitions were tried. -/
def after (m : ReplicaSet) (ts : List Transition) : ReplicaSet :=
  ts.foldl (fun k t => Attempt.target ⟨k, t⟩) m

/-- The attempts that some transitions make, each on the replica set after the ones before it. -/
def attempts (m : ReplicaSet) : List Transition → List Attempt
  | [] => []
  | t :: ts => ⟨m, t⟩ :: attempts (Attempt.target ⟨m, t⟩) ts

/-- The last transition is tried on what the others led to. -/
lemma after_snoc (m : ReplicaSet) (ts : List Transition) (t : Transition) :
    m.after (ts ++ [t]) = Attempt.target ⟨m.after ts, t⟩ := by
  rw [after, List.foldl_append]
  rfl

/-- The last attempt is that on what the others led to. -/
lemma attempts_snoc (m : ReplicaSet) (ts : List Transition) (t : Transition) :
    m.attempts (ts ++ [t]) = m.attempts ts ++ [⟨m.after ts, t⟩] := by
  induction ts generalizing m with
  | nil => rfl
  | cons first ts ih => exact congrArg (_ :: ·) (ih _)

/-- What a run leads to is what its transitions lead to when they are tried. -/
lemma after_of_run (run : Run m ts n) : m.after ts = n := by
  induction run with
  | nil => rfl
  | snoc _ given ih => rw [after_snoc, ih, Attempt.target_of_outcome given]

/-- All attempts on a well formed replica set lead to a well formed one. -/
lemma wellFormed_after (wf : m.WellFormed) (ts : List Transition) : (m.after ts).WellFormed := by
  induction ts using List.reverseRecOn with
  | nil => exact wf
  | append_singleton ts t ih =>
    rw [after_snoc]
    exact Attempt.wellFormed_target ih

/-- Every attempt is made on a well formed replica set. -/
lemma wellFormed_source (wf : m.WellFormed) {a : Attempt} (mem : a ∈ m.attempts ts) :
    a.source.WellFormed := by
  induction ts using List.reverseRecOn with
  | nil => cases mem
  | append_singleton ts t ih =>
    rw [attempts_snoc] at mem
    rcases List.mem_append.1 mem with mem | mem
    · exact ih mem
    · rw [List.mem_singleton.1 mem]
      exact wellFormed_after wf ts

open Attempt

/-- The epoch counts the elections that succeed. -/
lemma epoch_after (wf : m.WellFormed) (ts : List Transition) :
    (m.after ts).version.epoch.toNat
      = m.version.epoch.toNat + (m.attempts ts).countP Attempt.elects := by
  induction ts using List.reverseRecOn with
  | nil => rfl
  | append_singleton ts t ih =>
    rw [after_snoc, attempts_snoc, List.countP_append, ← Nat.add_assoc, ← ih]
    rcases renews_or_continues ⟨m.after ts, t⟩ (wellFormed_after wf ts) with last | last
    · rw [last.epoch, List.countP_singleton, if_pos last.elects]
    · rw [last.epoch, List.countP_singleton, last.elects, if_neg Bool.false_ne_true, Nat.add_zero]

/-- The generation is what the attempts since the last election have added. -/
lemma generation_after (wf : m.WellFormed) (ts : List Transition) :
    (m.after ts).version.generation.toNat
      = (if ∃ a ∈ m.attempts ts, a.elects then 0 else m.version.generation.toNat)
        + ((sinceElection (m.attempts ts)).map generations).sum := by
  induction ts using List.reverseRecOn with
  | nil => simp [after, attempts, sinceElection]
  | append_singleton ts t ih =>
    rw [after_snoc, attempts_snoc, sinceElection, List.rtakeWhile_concat]
    rcases renews_or_continues ⟨m.after ts, t⟩ (wellFormed_after wf ts) with last | last
    · -- whatever was added before, an election starts again
      have elected : ∃ a ∈ m.attempts ts ++ [⟨m.after ts, t⟩], a.elects :=
        ⟨_, List.mem_append_right _ (List.mem_singleton_self _), last.elects⟩
      rw [last.generation, if_pos elected, last.elects]
      rfl
    · have quiet : (∃ a ∈ m.attempts ts ++ [⟨m.after ts, t⟩], a.elects) ↔
          ∃ a ∈ m.attempts ts, a.elects := by
        simp [last.elects]
      rw [last.generation, ih, last.elects, Bool.not_false, if_pos rfl, List.map_append,
        List.sum_append, Nat.add_assoc]
      simp only [quiet]
      rfl

end ReplicaSet

/-- Versions are accounted for. Whatever transitions are tried on a well formed replica set, the
epoch counts the elections that succeed, and the generation is what the attempts since the last
of these have added, to zero after an election and to the generation of the beginning without
one. The primary changes in an election only, and a run leads to what its transitions lead to
when they are tried. -/
theorem version_accounted {m : ReplicaSet} (wf : m.WellFormed) (ts : List Transition) :
    (m.after ts).version.epoch.toNat
      = m.version.epoch.toNat + (m.attempts ts).countP Attempt.elects ∧
    (m.after ts).version.generation.toNat
      = (if ∃ a ∈ m.attempts ts, a.elects then 0 else m.version.generation.toNat)
        + ((Attempt.sinceElection (m.attempts ts)).map Attempt.generations).sum ∧
    (∀ a ∈ m.attempts ts, a.target.primary ≠ a.source.primary →
      a.elects ∧ a.target.version.epoch.toNat = a.source.version.epoch.toNat + 1) ∧
    (∀ n, Run m ts n → n = m.after ts) := by
  refine ⟨ReplicaSet.epoch_after wf ts, ReplicaSet.generation_after wf ts, ?_,
    fun n run => (ReplicaSet.after_of_run run).symm⟩
  intro a mem differs
  rcases a.renews_or_continues (ReplicaSet.wellFormed_source wf mem) with last | last
  · exact ⟨last.elects, last.epoch⟩
  · exact absurd last.primary differs

/-- An election, and after it an arbiter that is removed, a temporary primary among the five members
that are left, a transition that changes nothing and one that does not apply. -/
theorem version_accounted_failover :
    ∃ (m : ReplicaSet) (ts : List Transition),
      Content.decode "1,5,1,-1,2:3,4,6,5,-1,-1" = .ok m ∧ m.WellFormed ∧
      ts = [.electPrimary 2, .removeArbiter 4, .appointTempPrimary 3, .joiningToInactive 3,
        .removeSecondary 9] ∧
      (m.attempts ts).countP Attempt.elects = 1 ∧
      (Attempt.sinceElection (m.attempts ts)).map Attempt.generations = [1, 5, 0, 0] ∧
      (m.after ts).version.epoch.toNat = 1 + 1 ∧
      (m.after ts).version.generation.toNat = 0 + (1 + 5) := by
  let m : ReplicaSet := .ofRoster
    { version := ⟨1, 5⟩, primary := 1, secondaries := .ofList [2, 3], arbiters := .ofList [4],
      inactive := .ofList [6], joining := .ofList [5] }
  let elected : ReplicaSet := .ofRoster
    { version := ⟨2, 0⟩, primary := 2, secondaries := .ofList [1, 3], arbiters := .ofList [4],
      inactive := .ofList [6], joining := .ofList [5] }
  let removed : ReplicaSet := .ofRoster
    { version := ⟨2, 1⟩, primary := 2, secondaries := .ofList [1, 3], inactive := .ofList [6],
      joining := .ofList [5] }
  let appointed : ReplicaSet := .ofRoster
    { version := ⟨2, 6⟩, primary := 2, tempPrimary := some 3, secondaries := .ofList [1, 3],
      inactive := .ofList [6], joining := .ofList [5] }
  have content : Content.decode "1,5,1,-1,2:3,4,6,5,-1,-1" = .ok m := by rfl
  have wf : m.WellFormed := by decide
  have first : Attempt.target ⟨m, .electPrimary 2⟩ = elected := Attempt.target_of_outcome rfl
  have second : Attempt.target ⟨elected, .removeArbiter 4⟩ = removed :=
    Attempt.target_of_outcome rfl
  have third : Attempt.target ⟨removed, .appointTempPrimary 3⟩ = appointed :=
    Attempt.target_of_outcome rfl
  have fourth : Attempt.target ⟨appointed, .joiningToInactive 3⟩ = appointed :=
    Attempt.target_of_outcome rfl
  have tried : m.attempts [.electPrimary 2, .removeArbiter 4, .appointTempPrimary 3,
      .joiningToInactive 3, .removeSecondary 9] =
      [⟨m, .electPrimary 2⟩, ⟨elected, .removeArbiter 4⟩, ⟨removed, .appointTempPrimary 3⟩,
        ⟨appointed, .joiningToInactive 3⟩, ⟨appointed, .removeSecondary 9⟩] := by
    simp only [ReplicaSet.attempts, first, second, third, fourth]
  obtain ⟨epoch, generation, -⟩ := version_accounted wf [.electPrimary 2, .removeArbiter 4,
    .appointTempPrimary 3, .joiningToInactive 3, .removeSecondary 9]
  rw [tried] at epoch generation
  refine ⟨m, _, content, wf, rfl, ?_, ?_, epoch, generation⟩
  · rw [tried]
    rfl
  · rw [tried]
    rfl

end ReplicaQuorum
