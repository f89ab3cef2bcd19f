import Mathlib.Order.Bounds.Basic
import ReplicaQuorum.Status

/-!
# Joining statuses

Within a role family the statuses are ordered by what the member has lost: a live one is below a
degraded one, that is below one that is down for reads only, and a fully down one is above them all.
Statuses of different families are not comparable. The join of two statuses of a family is the
greater one, and a member may always move up.
-/

namespace ReplicaQuorum.Status

variable {s t : Status}

/-- How much a member has lost. -/
def severity : Status → Nat
  | primary | secondary | joiningSecondary | arbiter => 0
  | unstablePrimary | tempPrimary => 1
  | secondaryReadDown => 2
  | _ => 3

instance : PartialOrder Status where
  le s t := s = t ∨ s.family = t.family ∧ s.severity < t.severity
  le_refl _ := .inl rfl
  le_trans s t u := by
    rintro (rfl | ⟨st, lower⟩) (rfl | ⟨tu, lower'⟩)
    · exact .inl rfl
    · exact .inr ⟨tu, lower'⟩
    · exact .inr ⟨st, lower⟩
    · exact .inr ⟨st.trans tu, lower.trans lower'⟩
  le_antisymm s t := by
    rintro (rfl | ⟨-, lower⟩) (eq | ⟨-, lower'⟩)
    · rfl
    · rfl
    · exact eq.symm
    · exact absurd lower' (lt_asymm lower)

/-- Only statuses of one family stand above each other. -/
lemma family_eq_of_le (le : s ≤ t) : s.family = t.family := by
  rcases le with rfl | ⟨same, -⟩
  · rfl
  · exact same

/-- Two statuses of a family that lost equally much are equal. -/
lemma eq_of_severity_eq (same : s.family = t.family) (some : s.family ≠ none)
    (eq : s.severity = t.severity) : s = t := by
  revert same some eq
  cases s <;> cases t <;> decide

/-- The statuses of a family are linearly ordered. -/
lemma le_total_of_family {f : Family} (hs : s.family = some f) (ht : t.family = some f) :
    s ≤ t ∨ t ≤ s := by
  rcases lt_trichotomy s.severity t.severity with lower | eq | higher
  · exact .inl (.inr ⟨hs.trans ht.symm, lower⟩)
  · exact .inl (.inl (eq_of_severity_eq (hs.trans ht.symm) (by simp [hs]) eq))
  · exact .inr (.inr ⟨ht.trans hs.symm, higher⟩)

/-- A merge with a status above is that status. -/
lemma merge_eq_right (le : s ≤ t) : s.merge t = t := by
  rcases le with rfl | ⟨same, lower⟩
  · cases s <;> rfl
  · revert same lower
    cases s <;> cases t <;> decide

/-- A merge with a status below makes no difference. -/
lemma merge_eq_left (le : t ≤ s) : s.merge t = s := by
  rcases le with rfl | ⟨same, lower⟩
  · cases t <;> rfl
  · revert same lower
    cases s <;> cases t <;> decide

/-- The join of two statuses of a family is the greater one of them. -/
lemma isGreatest_merge {f : Family} (hs : s.family = some f) (ht : t.family = some f) :
    IsGreatest {s, t} (s.merge t) := by
  rcases le_total_of_family hs ht with le | ge
  · rw [merge_eq_right le]
    exact ⟨.inr rfl, by rintro u (rfl | rfl); exacts [le, le_refl _]⟩
  · rw [merge_eq_left ge]
    exact ⟨.inl rfl, by rintro u (rfl | rfl); exacts [le_refl _, ge]⟩

/-- A member may move to a status above its own. -/
lemma canMoveTo_of_lt (lt : s < t) : s.canMoveTo t := by
  obtain ⟨rfl | ⟨same, lower⟩, -⟩ := lt_iff_le_not_ge.1 lt
  · exact absurd lt (lt_irrefl _)
  · revert same lower
    cases s <;> cases t <;> decide

/-- A join within the family that is another status is one that the member may move to. -/
lemma canMoveTo_merge {f : Family} (hs : s.family = some f) (ht : t.family = some f)
    (ne : s.merge t ≠ s) : s.canMoveTo (s.merge t) :=
  canMoveTo_of_lt (lt_of_le_of_ne ((isGreatest_merge hs ht).2 (.inl rfl)) ne.symm)

/-- A move keeps the family. -/
lemma family_eq_of_canMoveTo (moves : s.canMoveTo t) : s.family = t.family := by
  revert moves
  cases s <;> cases t <;> decide

end ReplicaQuorum.Status
