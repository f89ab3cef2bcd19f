import ReplicaQuorum.Proofs.Transition.Run

/-!
# Adoption

As long as nobody marks replica sets from outside, those along a run are marked as adopted by a
quorum exactly if the primary has no other member in use. A step works the mark out anew, a copy has
it with the rest, and the removal of an inactive secondary takes it over from a replica set with the
same members in use.
-/

namespace ReplicaQuorum

/-- A roster is alone exactly if nobody else is in use in it. -/
lemma Roster.isAlone_iff {r : Roster} :
    r.isAlone ↔ r.secondaries = ∅ ∧ r.arbiters = ∅ ∧ r.joining = ∅ := by
  simp only [isAlone, Bool.and_eq_true, IdSet.isEmpty_iff, and_assoc]

namespace Effect

/-- A step that keeps the mark. -/
def keepsMark : Effect → Bool
  | markedStep .. => true
  | _ => false

/-- An edit works the mark out anew. -/
lemma keepsMark_edit (next : Roster) : (edit next).keepsMark = false :=
  rfl

/-- A step works the mark out anew. -/
lemma keepsMark_step (a : Advance) (next : Roster) : (step a next).keepsMark = false :=
  rfl

/-- What is left unchanged gets no other mark. -/
lemma keepsMark_unchanged : unchanged.keepsMark = false :=
  rfl

/-- What is refused gets no mark. -/
lemma keepsMark_refused (e : MembershipError) : (refused e).keepsMark = false :=
  rfl

/-- The mark is kept where there is a step that keeps it, and nowhere else. -/
lemma keepsMark_whenever (condition : Bool) (e : Effect) :
    (whenever condition e).keepsMark = (condition && e.keepsMark) := by
  cases condition <;> rfl

/-- The mark is kept where a step applies that keeps it, and nowhere else. -/
lemma keepsMark_only (condition : Bool) (e : Effect) :
    (only condition e).keepsMark = (condition && e.keepsMark) := by
  cases condition <;> rfl

end Effect

/-- The mark says that no other member is in use. -/
def ReplicaSet.MarkFits (m : ReplicaSet) : Prop :=
  m.quorumUpdated = m.isAlone

namespace Transition

variable {t : Transition} {m n : ReplicaSet} {a : Advance} {next : Roster}

/-- Only the removal of an inactive secondary keeps the mark. -/
lemma exists_removeInactive (keeps : (t.effect m).keepsMark) : ∃ id, t = .removeInactive id := by
  cases t
  case removeInactive id => exact ⟨id, rfl⟩
  all_goals
    simp [effect, Effect.keepsMark_whenever, Effect.keepsMark_only, Effect.keepsMark_edit,
      Effect.keepsMark_step, Effect.keepsMark_unchanged, Effect.keepsMark_refused,
      apply_ite Effect.keepsMark] at keeps

/-- A step that keeps the mark keeps the members in use. -/
lemma isAlone_of_markedStep (step : t.effect m = .markedStep a next) :
    next.isAlone = m.isAlone := by
  obtain ⟨id, rfl⟩ := exists_removeInactive (t := t) (m := m) (by rw [step]; rfl)
  rw [effect, Effect.whenever] at step
  split at step
  · cases step
    rfl
  · cases step

/-- A mark that fits stays so, by whichever of the three rules it is set. -/
theorem markFits_of_outcome (fits : m.MarkFits) (given : t.outcome m = .ok (some n)) :
    n.MarkFits := by
  cases gives_of_outcome given with
  | unchanged => exact fits
  | step => rfl
  | markedStep effect => exact fits.trans (isAlone_of_markedStep effect).symm

end Transition

/-- A caller that has `m` may come to hold `k`: by copies of what it holds, and by transitions on
it. -/
inductive Held (m : ReplicaSet) : ReplicaSet → Prop where
  | start : Held m m
  | copy {k} : Held m k → Held m k.copy
  | transition {t k n} : Held m k → Transition.outcome t k = .ok (some n) → Held m n

/-- Copies lead nowhere that transitions alone do not lead to. -/
lemma Held.exists_run {m k : ReplicaSet} (held : Held m k) : ∃ ts, Run m ts k := by
  induction held with
  | start => exact ⟨[], .nil⟩
  | copy _ ih => rwa [ReplicaSet.copy_eq]
  | transition _ given ih =>
    obtain ⟨ts, run⟩ := ih
    exact ⟨_, run.snoc given⟩

/-- Where transitions and copies lead from a replica set that was built or decoded, it is marked as
adopted exactly if there are no secondaries, arbiters and joining secondaries. -/
theorem adopted_iff_alone_throughout :
    (∀ r start k, ReplicaSet.build r = .ok start → Held start k →
      (k.quorumUpdated ↔ k.secondaries = ∅ ∧ k.arbiters = ∅ ∧ k.joining = ∅)) ∧
    (∀ content start k, Content.decode content = .ok start → Held start k →
      (k.quorumUpdated ↔ k.secondaries = ∅ ∧ k.arbiters = ∅ ∧ k.joining = ∅)) := by
  have built : ∀ r start k, ReplicaSet.build r = .ok start → Held start k →
      (k.quorumUpdated ↔ k.secondaries = ∅ ∧ k.arbiters = ∅ ∧ k.joining = ∅) := by
    intro r start k built held
    obtain ⟨-, rfl⟩ := ReplicaSet.build_eq_ok_iff.1 built
    obtain ⟨ts, run⟩ := held.exists_run
    have fits : k.MarkFits := run.keeps rfl fun _ _ _ => Transition.markFits_of_outcome
    rw [fits, Roster.isAlone_iff]
  refine ⟨built, fun content start k decoded held => ?_⟩
  obtain ⟨r, -, built'⟩ := Content.build_of_decode decoded
  exact built r start k built' held

/-- The removal of an inactive secondary leaves the mark off while another secondary is in use, and
on when there is none any more. -/
theorem adopted_iff_alone_throughout_removals :
    ∃ start shrunk alone last : ReplicaSet,
      Content.decode "1,0,1,-1,2,,3:4,,-1,-1" = .ok start ∧
      Transition.outcome (.removeInactive 3) start = .ok (some shrunk) ∧
      Transition.outcome (.removeSecondary 2) shrunk.copy = .ok (some alone) ∧
      Transition.outcome (.removeInactive 4) alone = .ok (some last) ∧
      Held start shrunk ∧ shrunk.quorumUpdated = false ∧
      Held start last ∧ last.quorumUpdated := by
  let start : ReplicaSet := .ofRoster
    { version := ⟨1, 0⟩, primary := 1, secondaries := .ofList [2], inactive := .ofList [3, 4] }
  let shrunk : ReplicaSet := .ofRoster
    { version := ⟨1, 1⟩, primary := 1, secondaries := .ofList [2], inactive := .ofList [4] }
  let alone : ReplicaSet := .ofRoster
    { version := ⟨1, 2⟩, primary := 1, inactive := .ofList [4] }
  let last : ReplicaSet := .ofRoster { version := ⟨1, 3⟩, primary := 1 }
  have content : Content.decode "1,0,1,-1,2,,3:4,,-1,-1" = .ok start := by rfl
  have first : Transition.outcome (.removeInactive 3) start = .ok (some shrunk) := by rfl
  have second : Transition.outcome (.removeSecondary 2) shrunk.copy = .ok (some alone) := by rfl
  have third : Transition.outcome (.removeInactive 4) alone = .ok (some last) := by rfl
  have heldShrunk : Held start shrunk := Held.start.transition first
  have heldLast : Held start last := (heldShrunk.copy.transition second).transition third
  obtain ⟨-, decoded⟩ := adopted_iff_alone_throughout
  have unmarked := mt (decoded _ _ _ content heldShrunk).1 fun ⟨empty, _⟩ =>
    absurd empty (by decide)
  have marked := (decoded _ _ _ content heldLast).2 ⟨rfl, rfl, rfl⟩
  exact ⟨start, shrunk, alone, last, content, first, second, third, heldShrunk,
    Bool.eq_false_iff.2 unmarked, heldLast, marked⟩

end ReplicaQuorum
