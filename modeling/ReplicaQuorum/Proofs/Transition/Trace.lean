import ReplicaQuorum.Proofs.Transition.Run

/-!
# Along a run

Which replica sets a run goes through, and which transition it makes on which of them. A run is
determined by its transitions, so both are told by splitting the list of these, and both grow with
the last transition of a run by what it leads to and by what it is made on.
-/

namespace ReplicaQuorum.Run

variable {m n k j : ReplicaSet} {ts after : List Transition} {t u : Transition}

/-- A run of no transitions stays where it is. -/
lemma nil_iff : Run m [] n ↔ n = m := by
  constructor
  · intro run
    generalize empty : ([] : List Transition) = ts at run
    cases run with
    | nil => rfl
    | snoc => simp at empty
  · rintro rfl
    exact .nil

/-- A run ends in its last transition. -/
lemma snoc_iff : Run m (ts ++ [t]) n ↔ ∃ k, Run m ts k ∧ t.outcome k = .ok (some n) := by
  constructor
  · intro run
    generalize whole : ts ++ [t] = us at run
    cases run with
    | nil => simp at whole
    | snoc run given =>
      obtain ⟨rfl, last⟩ := List.append_inj' whole rfl
      cases last
      exact ⟨_, run, given⟩
  · rintro ⟨k, run, given⟩
    exact .snoc run given

/-- The same transitions lead to the same replica set. -/
lemma unique {l : ReplicaSet} (run : Run m ts n) (run' : Run m ts l) : l = n := by
  induction run generalizing l with
  | nil => exact nil_iff.1 run'
  | snoc _ given ih =>
    obtain ⟨k, run', given'⟩ := snoc_iff.1 run'
    rw [ih run', given] at given'
    cases given'
    rfl

/-- The run by `ts` from `m` goes through `k`. -/
def PassesThrough (m : ReplicaSet) (ts : List Transition) (k : ReplicaSet) : Prop :=
  ∃ before after, ts = before ++ after ∧ Run m before k

/-- The run by `ts` from `m` makes the transition `t` on `k`, and goes on by `after`. -/
def CalledOn (m : ReplicaSet) (ts : List Transition) (t : Transition) (k : ReplicaSet)
    (after : List Transition) : Prop :=
  ∃ before, ts = before ++ t :: after ∧ Run m before k

/-- A run of no transitions passes through its start only. -/
lemma passesThrough_nil : PassesThrough m [] j ↔ j = m := by
  constructor
  · rintro ⟨before, after, split, run⟩
    obtain ⟨rfl, -⟩ := List.append_eq_nil_iff.1 split.symm
    exact nil_iff.1 run
  · rintro rfl
    exact ⟨[], [], rfl, .nil⟩

/-- A run goes through what it goes through before its last transition, and through its end. -/
lemma passesThrough_snoc (run : Run m ts k) (given : t.outcome k = .ok (some n)) :
    PassesThrough m (ts ++ [t]) j ↔ PassesThrough m ts j ∨ j = n := by
  constructor
  · rintro ⟨before, after, split, reached⟩
    -- the run is split at its end, or before its last transition
    rcases List.eq_nil_or_concat after with rfl | ⟨rest, last, rfl⟩
    · rw [List.append_nil] at split
      exact .inr (unique (.snoc run given) (split ▸ reached))
    · rw [List.concat_eq_append, ← List.append_assoc] at split
      obtain ⟨earlier, -⟩ := List.append_inj' split rfl
      exact .inl ⟨before, rest, earlier, reached⟩
  · rintro (⟨before, after, rfl, reached⟩ | rfl)
    · exact ⟨before, after ++ [t], by simp, reached⟩
    · exact ⟨ts ++ [t], [], by simp, .snoc run given⟩

/-- A run from a well formed replica set passes through well formed ones only. -/
lemma wellFormed_of_passesThrough (wf : m.WellFormed) (passed : PassesThrough m ts k) :
    k.WellFormed := by
  obtain ⟨before, after, -, run⟩ := passed
  exact run.wellFormed wf

/-- Nothing is called in a run of no transitions. -/
lemma not_calledOn_nil : ¬CalledOn m [] t k after := by
  rintro ⟨before, split, -⟩
  simp at split

/-- A run makes the transitions that it makes before its last one, and that one on what it has
reached by then. -/
lemma calledOn_snoc (run : Run m ts k) :
    CalledOn m (ts ++ [t]) u j after ↔
      after = [] ∧ u = t ∧ j = k ∨ ∃ rest, after = rest ++ [t] ∧ CalledOn m ts u j rest := by
  constructor
  · rintro ⟨before, split, reached⟩
    rcases List.eq_nil_or_concat after with rfl | ⟨rest, last, rfl⟩
    · obtain ⟨rfl, same⟩ := List.append_inj' split rfl
      cases same
      exact .inl ⟨rfl, rfl, unique run reached⟩
    · rw [List.concat_eq_append, ← List.cons_append, ← List.append_assoc] at split
      obtain ⟨earlier, same⟩ := List.append_inj' split rfl
      cases same
      exact .inr ⟨rest, List.concat_eq_append, before, earlier, reached⟩
  · rintro (⟨rfl, rfl, rfl⟩ | ⟨rest, rfl, before, rfl, reached⟩)
    · exact ⟨ts, rfl, run⟩
    · exact ⟨before, by simp, reached⟩

end ReplicaQuorum.Run
