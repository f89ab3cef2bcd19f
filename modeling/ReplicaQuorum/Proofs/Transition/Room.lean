import ReplicaQuorum.Proofs.Content.RoundTrip
import ReplicaQuorum.Proofs.Transition.Account
import ReplicaQuorum.Proofs.Transition.Raise

/-!
# Room to move on

A step needs a version to move on to: the next epoch for an election, and so many generations for
anything else. Contents are read at any version, and nothing keeps a segment from the last one. So a
transition that makes a step fails exactly where the version has no room for it, and that can happen
to every set of members.
-/

namespace ReplicaQuorum

namespace Version

variable {v : Version}

/-- There is room for an advance if the sum fits its word. -/
def HasRoom (v : Version) : Advance → Prop
  | .epoch => v.epoch.toNat + 1 < UInt64.size
  | .generations n => v.generation.toNat + n < UInt64.size

instance (v : Version) : (a : Advance) → Decidable (v.HasRoom a)
  | .epoch => inferInstanceAs (Decidable (_ < _))
  | .generations _ => inferInstanceAs (Decidable (_ < _))

/-- A version moves on exactly if there is room. -/
lemma exists_after_iff {a : Advance} : (∃ w, v.after a = .ok w) ↔ v.HasRoom a := by
  cases a with
  | epoch =>
    constructor
    · rintro ⟨w, after⟩
      obtain ⟨epoch, -⟩ := nextEpoch_eq_ok_iff.1 after
      have fits := w.epoch.toNat_lt
      rwa [epoch] at fits
    · exact exists_nextEpoch
  | generations n =>
    constructor
    · rintro ⟨w, after⟩
      obtain ⟨-, generation⟩ := advance_eq_ok_iff.1 after
      have fits := w.generation.toNat_lt
      rwa [generation] at fits
    · exact exists_advance

/-- The last version of all. -/
def last : Version :=
  ⟨18446744073709551615, 18446744073709551615⟩

/-- The last version has no room for a step that raises it. -/
lemma not_hasRoom_last {a : Advance} (raises : a.Raises) : ¬last.HasRoom a := by
  cases a with
  | epoch => exact Nat.lt_irrefl UInt64.size
  | generations n =>
    show ¬18446744073709551615 + n < 18446744073709551616
    have raises : 0 < n := raises
    omega

end Version

namespace Transition

variable {t : Transition} {m : ReplicaSet}

/-- The transition makes a step: it applies, it is not refused, and there is something to change. -/
def Steps (t : Transition) (m : ReplicaSet) : Prop :=
  (t.effect m).next?.isSome

/-- How far the step of the transition moves the version. -/
def reach (r : Roster) (t : Transition) : Advance :=
  if t.isElection then .epoch else .generations (t.added r)

/-- Every step moves the version as far as its transition reaches. -/
lemma advance_eq_reach {a : Advance} {next : Roster} (wf : m.WellFormed)
    (step : (t.effect m).next? = some (a, next)) : a = t.reach m.toRoster := by
  rw [(effect_makes wf step).advance_eq, reach]
  cases election : t.isElection with
  | false => exact (change_of_not_isElection wf election).1
  | true =>
    cases t
    case electPrimary candidate =>
      simp only [change]
      split <;> rfl
    case promoteNominee => rfl
    all_goals cases election

/-- A transition overflows exactly if it makes a step that the version has no room for. -/
theorem overflow_iff (wf : m.WellFormed) :
    (∃ o, t.outcome m = .error (.overflow o)) ↔
      t.Steps m ∧ ¬m.version.HasRoom (t.reach m.toRoster) := by
  have reach_of_step : ∀ a next, (t.effect m).next? = some (a, next) → a = t.reach m.toRoster :=
    fun _ _ => advance_eq_reach wf
  rw [← Version.exists_after_iff, Steps, outcome]
  cases effect : t.effect m with
  | declined => simp [Effect.next?]
  | unchanged => simp [Effect.next?]
  | refused e => simp [Effect.next?]
  | step a next =>
    obtain rfl := reach_of_step a next (by rw [effect]; rfl)
    dsimp only
    cases m.version.after (t.reach m.toRoster) with
    | error o => simp [Effect.next?]
    | ok w => simp [Effect.next?]
  | markedStep a next =>
    obtain rfl := reach_of_step a next (by rw [effect]; rfl)
    dsimp only
    cases m.version.after (t.reach m.toRoster) with
    | error o => simp [Effect.next?]
    | ok w => simp [Effect.next?]

/-! ## Every version -/

/-- Whether something is made depends on whether there is a step to be made. -/
lemma isSome_next?_whenever (condition : Bool) (e : Effect) :
    (Effect.whenever condition e).next?.isSome = (condition && e.next?.isSome) := by
  cases condition <;> rfl

/-- Whether something is made depends on whether a step applies. -/
lemma isSome_next?_only (condition : Bool) (e : Effect) :
    (Effect.only condition e).next?.isSome = (condition && e.next?.isSome) := by
  cases condition <;> rfl

/-- A choice makes something if its branch does. -/
lemma isSome_next?_ite (p : Prop) [Decidable p] (yes no : Effect) :
    (if p then yes else no).next?.isSome = if p then yes.next?.isSome else no.next?.isSome := by
  split <;> rfl

/-- Whether a transition makes a step does not depend on the version. -/
lemma steps_withVersion (version : Version) :
    t.Steps (.ofRoster { m.toRoster with version }) ↔ t.Steps m := by
  have same : (t.effect (.ofRoster { m.toRoster with version })).next?.isSome =
      (t.effect m).next?.isSome := by
    cases t
    all_goals
      simp only [effect, isSome_next?_whenever, isSome_next?_only, isSome_next?_ite]
      rfl
  rw [Steps, Steps, same]

/-- At the last version there is room for no step that raises it. -/
lemma overflow_of_last (wf : m.WellFormed) (last : m.version = .last) (steps : t.Steps m)
    (moving : ∀ id, t ≠ .appointTempPrimaryBy id 0) : ∃ o, t.outcome m = .error (.overflow o) := by
  obtain ⟨⟨a, next⟩, step⟩ := Option.isSome_iff_exists.1 steps
  refine (overflow_iff wf).2 ⟨steps, ?_⟩
  rw [last, ← advance_eq_reach wf step]
  exact Version.not_hasRoom_last (raises_of_step wf moving step)

end Transition

/-! ## Runs -/

namespace Attempt

/-- The generations that the transition of an attempt adds where it makes a step. -/
def added (a : Attempt) : Nat :=
  a.transition.added a.source.toRoster

variable {a : Attempt}

/-- An attempt does not overflow if there is one more epoch for an election, and if there are as
many generations more as the transition adds. -/
lemma not_overflow (wf : a.source.WellFormed)
    (epochs : a.source.version.epoch.toNat + a.transition.isElection.toNat < UInt64.size)
    (generations : a.source.version.generation.toNat + a.added < UInt64.size) (o : Overflow) :
    a.transition.outcome a.source ≠ .error (.overflow o) := by
  intro failed
  refine ((Transition.overflow_iff wf).1 ⟨o, failed⟩).2 ?_
  rw [Transition.reach]
  cases election : a.transition.isElection with
  | true =>
    rw [election] at epochs
    exact epochs
  | false => exact generations

/-- An attempt takes no more epochs and generations than that. -/
lemma version_target_le (wf : a.source.WellFormed) :
    a.target.version.epoch.toNat ≤
        a.source.version.epoch.toNat + a.transition.isElection.toNat ∧
      a.target.version.generation.toNat ≤ a.source.version.generation.toNat + a.added := by
  rcases a.renews_or_continues wf with renews | continues
  · have election : a.transition.isElection = true := (Bool.and_eq_true_iff.1 renews.elects).1
    rw [renews.epoch, renews.generation, election]
    exact ⟨Nat.le_refl _, Nat.zero_le _⟩
  · have few : a.generations ≤ a.added := by
      unfold generations
      split
      · exact Nat.zero_le _
      · exact Nat.le_refl _
    rw [continues.epoch, continues.generation]
    exact ⟨Nat.le_add_right _ _, Nat.add_le_add_left few _⟩

end Attempt

/-- No attempt overflows where the version has room for all elections that are tried, and for all
generations that are added. -/
lemma ReplicaSet.not_overflow_of_attempts {m : ReplicaSet} (wf : m.WellFormed)
    {ts : List Transition}
    (epochs : m.version.epoch.toNat + ts.countP Transition.isElection < UInt64.size)
    (generations : m.version.generation.toNat + ((m.attempts ts).map Attempt.added).sum
      < UInt64.size) :
    ∀ a ∈ m.attempts ts, ∀ o, a.transition.outcome a.source ≠ .error (.overflow o) := by
  induction ts generalizing m with
  | nil => exact List.forall_mem_nil _
  | cons t ts ih =>
    let first : Attempt := ⟨m, t⟩
    have split : m.attempts (t :: ts) = first :: first.target.attempts ts := rfl
    have election : (t :: ts).countP Transition.isElection
        = first.transition.isElection.toNat + ts.countP Transition.isElection := by
      rw [List.countP_cons, Nat.add_comm]
      cases t.isElection <;> rfl
    rw [election, ← Nat.add_assoc] at epochs
    rw [split, List.map_cons, List.sum_cons, ← Nat.add_assoc] at generations
    obtain ⟨epoch, generation⟩ := first.version_target_le wf
    rw [split, List.forall_mem_cons]
    refine ⟨?_, ih (Attempt.wellFormed_target wf) ?_ ?_⟩
    · exact first.not_overflow wf (Nat.lt_of_le_of_lt (Nat.le_add_right _ _) epochs)
        (Nat.lt_of_le_of_lt (Nat.le_add_right _ _) generations)
    · exact Nat.lt_of_le_of_lt (Nat.add_le_add_right epoch _) epochs
    · exact Nat.lt_of_le_of_lt (Nat.add_le_add_right generation _) generations

/-- A registry asked for a transition that overflows has no answer. It keeps what it has, but its
lock is poisoned, so it has no answer to anything after that. -/
lemma Registry.perform_apply_overflow_iff {r : Registry} {now : Instant} {segment : SegmentId}
    {t : Transition} {m : ReplicaSet} {o : Overflow} (clear : r.poisoned = false)
    (held : r.get? segment = some m) :
    (Call.apply now segment t).perform r = (.error (.overflow o), r.poison) ↔
      t.outcome m = .error (.overflow o) := by
  simp only [Call.perform, apply, locked_of_clear clear, held, Transition.apply]
  cases given : t.outcome m with
  | error fault =>
    cases fault with
    | error e => simp [failed, Except.map]
    | overflow o => simp [Except.map]
  | ok result =>
    cases result with
    | none => simp [Except.map]
    | some n =>
      by_cases higher : m.version < n.version
      · simp only [if_pos higher, commit_value]
        cases (r.sink.persist now segment n).value with
        | error e => simp [failed, Except.map]
        | ok sink => simp [Except.map]
      · simp [higher, Except.map]

/-- Whatever content a replica set was read from, a transition of it overflows exactly if it makes a
step that the version has no room for, and then a registry has no answer to the transition, and its
lock is poisoned. The members do not keep from this: what makes a step of them overflows at the last
version, at which they are read as well. No run overflows where the version has room for all
elections that are tried and for all generations that are added. -/
theorem overflow_iff_no_room {content : String} {m : ReplicaSet}
    (decoded : Content.decode content = .ok m) :
    (∀ t : Transition, (∃ o, t.outcome m = .error (.overflow o)) ↔
      t.Steps m ∧ ¬m.version.HasRoom (t.reach m.toRoster)) ∧
    (∀ (t : Transition) (r : Registry) now segment o, r.poisoned = false →
      r.get? segment = some m →
      ((Registry.Call.apply now segment t).perform r = (.error (.overflow o), r.poison) ↔
        t.outcome m = .error (.overflow o))) ∧
    (∀ t : Transition, t.Steps m → (∀ id, t ≠ .appointTempPrimaryBy id 0) →
      ∃ other n, Content.decode other = .ok n ∧
        n.toRoster = { m.toRoster with version := .last } ∧
        ∃ o, t.outcome n = .error (.overflow o)) ∧
    (∀ ts : List Transition,
      m.version.epoch.toNat + ts.countP Transition.isElection < UInt64.size →
      m.version.generation.toNat + ((m.attempts ts).map Attempt.added).sum < UInt64.size →
      ∀ a ∈ m.attempts ts, ∀ o, a.transition.outcome a.source ≠ .error (.overflow o)) := by
  obtain ⟨roster, -, built⟩ := Content.build_of_decode decoded
  obtain ⟨wf, rfl⟩ := ReplicaSet.build_eq_ok_iff.1 built
  refine ⟨fun t => Transition.overflow_iff wf, ?_, ?_, ?_⟩
  · intro t r now segment o clear held
    exact Registry.perform_apply_overflow_iff clear held
  · intro t steps moving
    have last_wf := wf.withVersion .last
    have steps := (Transition.steps_withVersion .last).2 steps
    exact ⟨_, _, Content.decode_encode last_wf, rfl,
      Transition.overflow_of_last last_wf rfl steps moving⟩
  · intro ts epochs generations
    exact ReplicaSet.not_overflow_of_attempts wf epochs generations

/-- The last generation of an epoch: no secondary can be removed, but one can be elected. With the
last epoch as well, none can be elected either. Two generations before, one can be elected and the
other removed. -/
theorem overflow_iff_no_room_last_generation :
    ∃ (m : ReplicaSet) (r : Registry),
      Content.decode "1,18446744073709551615,1,-1,2:3,,,,-1,-1" = .ok m ∧ r.get? 7 = some m ∧
      (∃ o, (Registry.Call.apply .epoch 7 (.removeSecondary 3)).perform r
        = (.error (.overflow o), r.poison)) ∧
      (¬∃ o, Transition.outcome (.electPrimary 2) m = .error (.overflow o)) ∧
      (∃ other n, Content.decode other = .ok n ∧
        n.toRoster = { m.toRoster with version := .last } ∧
        ∃ o, Transition.outcome (.electPrimary 2) n = .error (.overflow o)) ∧
      ∃ k : ReplicaSet, Content.decode "1,18446744073709551613,1,-1,2:3,,,,-1,-1" = .ok k ∧
        ∀ a ∈ k.attempts [.electPrimary 2, .removeSecondary 3], ∀ o,
          a.transition.outcome a.source ≠ .error (.overflow o) := by
  let m : ReplicaSet := .ofRoster
    { version := ⟨1, 18446744073709551615⟩, primary := 1, secondaries := .ofList [2, 3] }
  let k : ReplicaSet := .ofRoster
    { version := ⟨1, 18446744073709551613⟩, primary := 1, secondaries := .ofList [2, 3] }
  let r : Registry := { installed := (∅ : IdMap ReplicaSet).insert 7 m }
  have content : Content.decode "1,18446744073709551615,1,-1,2:3,,,,-1,-1" = .ok m := by rfl
  have held : r.get? 7 = some m := by rfl
  obtain ⟨exactly, unanswered, everywhere, -⟩ := overflow_iff_no_room content
  have full : ¬m.version.HasRoom (Transition.reach m.toRoster (.removeSecondary 3)) := by decide
  have roomy : m.version.HasRoom (Transition.reach m.toRoster (.electPrimary 2)) := by decide
  obtain ⟨o, failed⟩ := (exactly (.removeSecondary 3)).2 ⟨rfl, full⟩
  have earlier : Content.decode "1,18446744073709551613,1,-1,2:3,,,,-1,-1" = .ok k := by rfl
  obtain ⟨-, -, -, running⟩ := overflow_iff_no_room earlier
  refine ⟨m, r, content, held, ⟨o, (unanswered _ r .epoch 7 o rfl held).2 failed⟩, ?_, ?_,
    k, earlier, ?_⟩
  · intro failed
    exact ((exactly _).1 failed).2 roomy
  · exact everywhere (.electPrimary 2) rfl nofun
  · have added : (k.attempts [.electPrimary 2, .removeSecondary 3]).map Attempt.added = [1, 1] := by
      rfl
    refine running [.electPrimary 2, .removeSecondary 3] (by decide) ?_
    rw [added]
    decide

/-- Contents that are read, of replica sets that have used up the generations of their epoch, or the
epochs, or have one generation too few for a temporary primary to outrun three members. -/
theorem accepted_content_overflows :
    ∃ m n k : ReplicaSet, Content.decode "1,18446744073709551615,1,-1,2:3,,,,-1,-1" = .ok m ∧
      Transition.outcome (.removeSecondary 3) m = .error (.overflow .addition) ∧
      Content.decode "18446744073709551615,0,1,-1,2:3,,,,-1,-1" = .ok n ∧
      Transition.outcome (.electPrimary 1) n = .error (.overflow .addition) ∧
      Content.decode "1,18446744073709551613,1,-1,2:3,,,,-1,-1" = .ok k ∧
      Transition.outcome (.appointTempPrimary 2) k = .error (.overflow .addition) := by
  let m : ReplicaSet := .ofRoster
    { version := ⟨1, 18446744073709551615⟩, primary := 1, secondaries := .ofList [2, 3] }
  let n : ReplicaSet := .ofRoster
    { version := ⟨18446744073709551615, 0⟩, primary := 1, secondaries := .ofList [2, 3] }
  let k : ReplicaSet := .ofRoster
    { version := ⟨1, 18446744073709551613⟩, primary := 1, secondaries := .ofList [2, 3] }
  exact ⟨m, n, k, by rfl, by rfl, by rfl, by rfl, by rfl, by rfl⟩

end ReplicaQuorum
