import ReplicaQuorum.Proofs.Registry.Call
import ReplicaQuorum.Proofs.ReplicaSet.Compare
import ReplicaQuorum.Proofs.Transition.Run

/-!
# Rising versions

No transition lowers the version, and one that changes the roster raises it. There is one exception:
a temporary primary may be appointed with zero generations to move on, and then two rosters share a
version. Such a replica set cannot be compared with the one before it, and a registry drops it.
-/

namespace ReplicaQuorum

/-- The advance leads to a higher version. -/
def Advance.Raises : Advance → Prop
  | .epoch => True
  | .generations n => 0 < n

/-- A step that raises versions leads to a higher one. -/
lemma Version.lt_of_after {v w : Version} {a : Advance} (raises : a.Raises)
    (after : v.after a = .ok w) : v < w := by
  cases a with
  | epoch => exact lt_of_nextEpoch after
  | generations n => exact lt_of_advance after raises

/-- No generations lead nowhere. -/
lemma Version.after_zero {v w : Version} (after : v.after (.generations 0) = .ok w) : w = v := by
  obtain ⟨epoch, generation⟩ := advance_eq_ok_iff.1 after
  cases v
  cases w
  simp_all [← UInt64.toNat_inj]

namespace Transition

variable {t : Transition} {m n : ReplicaSet} {a : Advance} {next : Roster} {id : InstanceId}

/-- The call changes the roster and is told to move on by no generation. -/
def Stalls (t : Transition) (r : Roster) : Prop :=
  ∃ id, t = .appointTempPrimaryBy id 0 ∧ { r.cleared with tempPrimary := some id } ≠ r

/-- Every step raises the version, unless it is told to move on by no generation. -/
lemma raises_of_step (wf : m.WellFormed) (moving : ∀ id, t ≠ .appointTempPrimaryBy id 0)
    (step : (t.effect m).next? = some (a, next)) : a.Raises := by
  rw [(effect_makes wf step).advance_eq]
  cases t
  case electPrimary candidate =>
    simp only [change]
    split <;> trivial
  case appointTempPrimaryBy id generations =>
    show 0 < generations.toNat
    have ne : generations.toNat ≠ 0 := by
      intro zero
      rw [← UInt64.toNat_zero, UInt64.toNat_inj] at zero
      exact moving id (zero ▸ rfl)
    omega
  case appointTempPrimary id => exact Nat.add_pos_left Nat.one_pos _
  case selectPotentialPrimary id => exact Nat.add_pos_left Nat.one_pos _
  case promoteNominee id => trivial
  all_goals exact Nat.one_pos

/-- A transition leaves the replica set as it is or raises the version, unless it is told to move on
by no generation. -/
lemma eq_or_lt_of_outcome (wf : m.WellFormed) (moving : ∀ id, t ≠ .appointTempPrimaryBy id 0)
    (given : t.outcome m = .ok (some n)) : n = m ∨ m.version < n.version := by
  rcases outcome_cases given with same | ⟨a, next, version, step, after, eq⟩
  · exact .inl same
  · rw [eq]
    exact .inr (Version.lt_of_after (raises_of_step wf moving step) after)

/-- An appointment with no generations to move on keeps the version of what it changes. -/
lemma toRoster_of_appoint_zero (given : outcome (.appointTempPrimaryBy id 0) m = .ok (some n)) :
    n.toRoster = { m.cleared with tempPrimary := some id } := by
  obtain ⟨-, version, after, eq⟩ := toRoster_of_only rfl given
  obtain rfl := Version.after_zero after
  exact eq

/-- A transition gives the roster it started from or raises the version, exactly if it does not
stall. -/
lemma same_or_lt_iff (wf : m.WellFormed) (given : t.outcome m = .ok (some n)) :
    n.toRoster = m.toRoster ∨ m.version < n.version ↔ ¬t.Stalls m.toRoster := by
  by_cases zero : ∃ id, t = .appointTempPrimaryBy id 0
  · obtain ⟨id, rfl⟩ := zero
    have eq := toRoster_of_appoint_zero given
    -- the version stays level, and so it is the roster that decides
    have level : ¬m.version < n.version := by
      rw [eq]
      exact lt_irrefl _
    have stalls : Stalls (.appointTempPrimaryBy id 0) m.toRoster ↔ n.toRoster ≠ m.toRoster := by
      rw [eq]
      constructor
      · rintro ⟨_, ⟨⟩, ne⟩
        exact ne
      · exact fun ne => ⟨id, rfl, ne⟩
    rw [stalls, not_not, or_iff_left level]
  · have moving : ∀ id, t ≠ .appointTempPrimaryBy id 0 := fun id eq => zero ⟨id, eq⟩
    have settled : n.toRoster = m.toRoster ∨ m.version < n.version :=
      (eq_or_lt_of_outcome wf moving given).imp_left (congrArg ReplicaSet.toRoster)
    refine iff_of_true settled ?_
    rintro ⟨id, eq, -⟩
    exact moving id eq

/-- No transition lowers the version. -/
lemma le_of_outcome (given : t.outcome m = .ok (some n)) : m.version ≤ n.version := by
  rcases outcome_cases given with rfl | ⟨a, next, version, -, after, eq⟩
  · exact le_refl _
  · rw [eq]
    cases a with
    | epoch => exact le_of_lt (Version.lt_of_nextEpoch after)
    | generations g =>
      rcases Nat.eq_zero_or_pos g with rfl | pos
      · exact le_of_eq (Version.after_zero after).symm
      · exact le_of_lt (Version.lt_of_advance after pos)

end Transition

/-- A registry rejects what a transition gives exactly if its version is not higher. -/
lemma Registry.rejects_iff {r : Registry} {now : Instant} {segment : SegmentId} {t : Transition}
    {m n : ReplicaSet} (clear : r.poisoned = false) (held : r.get? segment = some m)
    (given : t.outcome m = .ok (some n)) :
    (Call.apply now segment t).perform r = (.ok (.replicas none), r.raise .transitionsRejected) ↔
      ¬m.version < n.version := by
  simp only [Call.perform, apply, locked_of_clear clear, held, Transition.apply, given]
  by_cases higher : m.version < n.version
  · simp only [if_pos higher, commit_value]
    cases (r.sink.persist now segment n).value with
    | error e => simp [failed, Except.map, higher]
    | ok sink => simp [Except.map, higher]
  · simp only [if_neg higher]
    exact iff_of_true rfl higher

variable {t : Transition} {m n : ReplicaSet}

/-- What a transition gives is as before or has a higher version, and so it can be compared with
what was before and no registry drops it where it differs, exactly if the call does not stall. A
poisoned registry does not come to work it out. -/
theorem same_or_higher_unless_stalled (wf : m.WellFormed) (given : t.outcome m = .ok (some n)) :
    (n.toRoster = m.toRoster ∨ m.version < n.version ↔ ¬t.Stalls m.toRoster) ∧
    ((∃ order, n.compareTo m = .ok order) ↔ ¬t.Stalls m.toRoster) ∧
    (∀ (r : Registry) now segment, r.poisoned = false → r.get? segment = some m →
      ((Registry.Call.apply now segment t).perform r
          = (.ok (.replicas none), r.raise .transitionsRejected) ∧ n.toRoster ≠ m.toRoster ↔
        t.Stalls m.toRoster)) := by
  have settled := Transition.same_or_lt_iff wf given
  -- no version falls, so a version that differs is higher and the comparison has an answer
  have higher_iff : m.version < n.version ↔ n.version ≠ m.version :=
    ⟨ne_of_gt, (Transition.le_of_outcome given).lt_of_ne'⟩
  refine ⟨settled, ?_, ?_⟩
  · rw [ReplicaSet.exists_compareTo_iff, ← higher_iff, settled]
  · intro r now segment clear held
    rw [Registry.rejects_iff clear held given, ← not_iff_not, not_and_or, not_not, not_not, or_comm,
      settled]

/-- A secondary is appointed with three generations to move on, and the registry installs it. -/
theorem same_or_higher_unless_stalled_appointed :
    ∃ m n : ReplicaSet, Content.decode "1,0,1,-1,2:3,,,,-1,-1" = .ok m ∧ m.WellFormed ∧
      Transition.outcome (.appointTempPrimaryBy 2 3) m = .ok (some n) ∧
      n.toRoster ≠ m.toRoster ∧ m.version < n.version ∧ ∃ order, n.compareTo m = .ok order := by
  let m : ReplicaSet := .ofRoster
    { version := ⟨1, 0⟩, primary := 1, secondaries := .ofList [2, 3] }
  let n : ReplicaSet := .ofRoster
    { version := ⟨1, 3⟩, primary := 1, tempPrimary := some 2, secondaries := .ofList [2, 3] }
  have content : Content.decode "1,0,1,-1,2:3,,,,-1,-1" = .ok m := by rfl
  have wf : m.WellFormed := by decide
  have given : Transition.outcome (.appointTempPrimaryBy 2 3) m = .ok (some n) := by rfl
  have differs : n.toRoster ≠ m.toRoster := by decide
  have moving : ¬Transition.Stalls (.appointTempPrimaryBy 2 3) m.toRoster := by
    rintro ⟨id, eq, -⟩
    cases eq
  obtain ⟨settled, compared, -⟩ := same_or_higher_unless_stalled wf given
  exact ⟨m, n, content, wf, given, differs, (settled.2 moving).resolve_left differs,
    compared.2 moving⟩

/-- A secondary that is appointed with zero generations to move on gives a different replica set of
the same version, which raises the alarm where it is compared and which a registry drops. -/
theorem stalled_appointment_shares_version :
    ∃ m n : ReplicaSet, Content.decode "1,0,1,-1,2:3,,,,-1,-1" = .ok m ∧ m.WellFormed ∧
      Transition.outcome (.appointTempPrimaryBy 2 0) m = .ok (some n) ∧
      n.toRoster ≠ m.toRoster ∧ ¬m.version < n.version ∧
      n.compareTo m = .error (.sameVersion n m) ∧
      ∃ r : Registry, r.get? 7 = some m ∧
        (Registry.Call.apply .epoch 7 (.appointTempPrimaryBy 2 0)).perform r
          = (.ok (.replicas none), r.raise .transitionsRejected) := by
  let m : ReplicaSet := .ofRoster
    { version := ⟨1, 0⟩, primary := 1, secondaries := .ofList [2, 3] }
  let n : ReplicaSet := .ofRoster
    { version := ⟨1, 0⟩, primary := 1, tempPrimary := some 2, secondaries := .ofList [2, 3] }
  let r : Registry := { installed := (∅ : IdMap ReplicaSet).insert 7 m }
  have content : Content.decode "1,0,1,-1,2:3,,,,-1,-1" = .ok m := by rfl
  have wf : m.WellFormed := by decide
  have given : Transition.outcome (.appointTempPrimaryBy 2 0) m = .ok (some n) := by rfl
  have held : r.get? 7 = some m := by rfl
  have level : ¬m.version < n.version := by decide
  exact ⟨m, n, content, wf, given, by decide, level, by rfl, r, held,
    (Registry.rejects_iff rfl held given).2 level⟩

end ReplicaQuorum
