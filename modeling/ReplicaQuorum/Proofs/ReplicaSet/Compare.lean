import ReplicaQuorum.Proofs.Version
import ReplicaQuorum.ReplicaSet.Compare

/-!
# Comparisons of replica sets

What a comparison tells of two replica sets: that their rosters are equal, or how their versions
stand to each other. It has no answer only where different rosters share a version, and both sides
agree on that.
-/

namespace ReplicaQuorum.ReplicaSet

variable {m n : ReplicaSet}

/-- A replica set compares as greater exactly if its version is higher. -/
lemma compareTo_eq_gt_iff : m.compareTo n = .ok .gt ↔ n.version < m.version := by
  unfold compareTo
  by_cases same : m.toRoster = n.toRoster
  · simp [same]
  · rw [if_neg same, ← Version.compare_eq_gt_iff]
    cases m.version.compare n.version <;> simp

/-- A replica set compares as less exactly if its version is lower. -/
lemma compareTo_eq_lt_iff : m.compareTo n = .ok .lt ↔ m.version < n.version := by
  unfold compareTo
  by_cases same : m.toRoster = n.toRoster
  · simp [same]
  · rw [if_neg same, ← Version.compare_eq_lt_iff]
    cases m.version.compare n.version <;> simp

/-- Replica sets compare as equal exactly if they have the same roster. -/
lemma compareTo_eq_eq_iff : m.compareTo n = .ok .eq ↔ m.toRoster = n.toRoster := by
  unfold compareTo
  by_cases same : m.toRoster = n.toRoster
  · simp [same]
  · cases m.version.compare n.version <;> simp [same]

/-- There is an answer unless different rosters share a version. -/
lemma exists_compareTo_iff :
    (∃ order, m.compareTo n = .ok order) ↔ m.toRoster = n.toRoster ∨ m.version ≠ n.version := by
  constructor
  · rintro ⟨order, compared⟩
    cases order with
    | lt => exact .inr (ne_of_lt (compareTo_eq_lt_iff.1 compared))
    | eq => exact .inl (compareTo_eq_eq_iff.1 compared)
    | gt => exact .inr (ne_of_gt (compareTo_eq_gt_iff.1 compared))
  · rintro (same | ne)
    · exact ⟨.eq, compareTo_eq_eq_iff.2 same⟩
    · rcases lt_or_gt_of_ne ne with below | above
      · exact ⟨.lt, compareTo_eq_lt_iff.2 below⟩
      · exact ⟨.gt, compareTo_eq_gt_iff.2 above⟩

end ReplicaQuorum.ReplicaSet
