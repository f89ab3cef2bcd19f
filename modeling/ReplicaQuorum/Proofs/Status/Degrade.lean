import ReplicaQuorum.Proofs.Status.Join

/-!
# Degrading statuses

What can become of the status of a member: it keeps to its family, an axis that is down stays down,
and where nothing is left to lose it stays as it is. A member that takes no writes serves no reads
either, so the number of axes that are down tells which ones, and a move or a join that keeps to the
family and does not lower that number only ever degrades a status.
-/

namespace ReplicaQuorum.Status

variable {s t u : Status} {f : Family}

/-- The status `t` can be what has become of `s`. -/
structure Degrades (s t : Status) : Prop where
  family : t.family = s.family
  readDown : s.readDown → t.readDown
  writeDown : s.writeDown → t.writeDown
  final : s.isDown → t = s

/-- A status can be what has become of it. -/
lemma Degrades.refl (s : Status) : s.Degrades s :=
  ⟨rfl, id, id, fun _ => rfl⟩

/-- What has become of what has become of a status has become of it. -/
lemma Degrades.trans (st : s.Degrades t) (tu : t.Degrades u) : s.Degrades u where
  family := tu.family.trans st.family
  readDown down := tu.readDown (st.readDown down)
  writeDown down := tu.writeDown (st.writeDown down)
  final down := by
    obtain rfl := st.final down
    exact tu.final down

/-! ## The number of axes that are down -/

/-- A status is down for reads exactly if one of its axes is down. -/
lemma readDown_iff : s.readDown ↔ 1 ≤ s.downCount := by
  cases s <;> decide

/-- A status is down for writes exactly if both of its axes are down. -/
lemma writeDown_iff : s.writeDown ↔ 2 ≤ s.downCount := by
  cases s <;> decide

/-- A family has one status that is down for reads and writes. -/
lemma eq_down (hs : s.family = some f) (down : s.isDown) : s = f.down := by
  revert hs down
  cases s <;> cases f <;> decide

/-- A status of the family with as many axes down is one that `s` can become. -/
lemma Degrades.of_downCount_le (hs : s.family = some f) (ht : t.family = some f)
    (le : s.downCount ≤ t.downCount) : s.Degrades t where
  family := ht.trans hs.symm
  readDown down := readDown_iff.2 ((readDown_iff.1 down).trans le)
  writeDown down := writeDown_iff.2 ((writeDown_iff.1 down).trans le)
  final down := by
    have down' : t.isDown := writeDown_iff.2 ((writeDown_iff.1 down).trans le)
    rw [eq_down ht down', eq_down hs down]

/-- A legal move degrades the status. -/
lemma degrades_of_canMoveTo (moves : s.canMoveTo t) : s.Degrades t := by
  simp only [canMoveTo, sameRole, Bool.and_eq_true, Bool.or_eq_true, decide_eq_true_eq] at moves
  obtain ⟨same, counts⟩ := moves
  have le : s.downCount ≤ t.downCount := by omega
  cases hs : s.family with
  | none => simp [hs] at same
  | some f =>
    cases ht : t.family with
    | none => simp [hs, ht] at same
    | some g =>
      obtain rfl : f = g := by simpa [hs, ht] using same
      exact .of_downCount_le hs ht le

/-- A status above another one is no less down. -/
lemma downCount_le_of_le (le : s ≤ t) : s.downCount ≤ t.downCount := by
  rcases le with rfl | ⟨same, lower⟩
  · exact le_refl _
  · revert same lower
    cases s <;> cases t <;> decide

/-- A join within the family degrades the status. -/
lemma degrades_merge (hs : s.family = some f) (ht : t.family = some f) :
    s.Degrades (s.merge t) := by
  have le : s ≤ s.merge t := (isGreatest_merge hs ht).2 (.inl rfl)
  exact .of_downCount_le hs ((family_eq_of_le le).symm.trans hs) (downCount_le_of_le le)

end ReplicaQuorum.Status
