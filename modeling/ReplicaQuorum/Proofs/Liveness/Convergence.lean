import Mathlib.Data.Fin.VecNotation
import Mathlib.Data.Fintype.Basic
import Mathlib.Logic.Function.Basic
import ReplicaQuorum.Proofs.Liveness.Absorb

/-!
# Convergence of observers

Observers of one roster may have seen different things. Once one of them has absorbed the records of
all others, it tells of each member the worst that any of them told, whoever it is and in whatever
order it absorbed them; and two observers that absorb each other's record agree from then on. Only
inactive members are left out, as their statuses are not joined.
-/

namespace ReplicaQuorum.ReplicaSet

variable {ι : Type*} {r : Roster} {observers met : ι → ReplicaSet} {m other : ReplicaSet}
  {i j target source : ι} {who : Set ι} {id : InstanceId} {s t top : Status}

/-- The statuses that some observers answer with for a member. -/
def answers (observers : ι → ReplicaSet) (id : InstanceId) (who : Set ι) : Set Status :=
  {s | ∃ i ∈ who, ((observers i).statusOf id).value.1 = .ok s}

/-- An answer is the status that one of the observers tells. -/
lemma mem_answers :
    s ∈ answers observers id who ↔ ∃ i ∈ who, (observers i).status? id = some s := by
  simp [answers, statusOf_eq_ok_iff]

/-- An observer of a roster that keeps to the families of its members' roles. -/
structure Observes (m : ReplicaSet) (r : Roster) : Prop where
  roster : m.toRoster = r
  inFamily : m.InFamily

/-- One that tells the same as an observer is an observer. -/
lemma Observes.of_concurs {n : ReplicaSet} (observes : m.Observes r) (concurs : n.Concurs m) :
    n.Observes r :=
  ⟨concurs.roster.trans observes.roster, observes.inFamily.of_concurs concurs⟩

/-- An observer observes the active members of the roster. -/
lemma Observes.mem_observedMembers (observes : m.Observes r) :
    id ∈ m.observedMembers ↔ id ∈ r.members ∧ id ∉ r.inactive := by
  rw [ReplicaSet.mem_observedMembers, observes.roster]

/-- Two observers tell statuses of each active member whose merge is their join. -/
lemma Observes.exists_statuses (own : m.Observes r) (theirs : other.Observes r)
    (mem : id ∈ r.members) (active : id ∉ r.inactive) :
    ∃ s t, m.status? id = some s ∧ other.status? id = some t ∧ IsGreatest {s, t} (s.merge t) := by
  have same : m.toRoster = other.toRoster := own.roster.trans theirs.roster.symm
  obtain ⟨s, t, f, known, seen, hs, ht⟩ := exists_statuses_of_observed own.inFamily
    theirs.inFamily same (own.mem_observedMembers.2 ⟨mem, active⟩)
  exact ⟨s, t, known, seen, Status.isGreatest_merge hs ht⟩

/-- An observer that absorbs the record of another one tells the joins, and that one tells what it
told. -/
lemma Observes.absorb (own : m.Observes r) (theirs : other.Observes r) (request : RequestId) :
    ∃ next after, (m.absorb request other).value = (.ok (), next, after) ∧ next.Observes r ∧
      after.Concurs other ∧ ∀ id ∈ r.members, id ∉ r.inactive → ∀ s t, m.status? id = some s →
        other.status? id = some t → next.status? id = some (s.merge t) := by
  obtain ⟨next, after, notices, eq, exchanges, inFamily, -⟩ :=
    absorb_eq own.inFamily theirs.inFamily (own.roster.trans theirs.roster.symm) request
  exact ⟨next, after, by rw [eq], ⟨exchanges.roster.trans own.roster, inFamily⟩, exchanges.concurs,
    fun id mem active s t => exchanges.joined (own.mem_observedMembers.2 ⟨mem, active⟩)⟩

/-! ## One record after another -/

variable [DecidableEq ι]

/-- One of the observers absorbs the record of another one. -/
def absorbFrom (target : ι) (observers : ι → ReplicaSet) (request : RequestId) (source : ι) :
    Except MembershipError Unit × (ι → ReplicaSet) :=
  let absorbed := ((observers target).absorb request (observers source)).value
  (absorbed.1,
    Function.update (Function.update observers source absorbed.2.2) target absorbed.2.1)

/-- One of the observers absorbs the records of others one after another, up to the first error. -/
def absorbAll (target : ι) :
    (ι → ReplicaSet) → List (RequestId × ι) → Except MembershipError Unit × (ι → ReplicaSet)
  | observers, [] => (.ok (), observers)
  | observers, (request, source) :: order =>
    match absorbFrom target observers request source with
    | (.error e, met) => (.error e, met)
    | (.ok (), met) => absorbAll target met order

/-- What the observers tell once one of them has absorbed the record of another one. -/
structure Meets (r : Roster) (observers : ι → ReplicaSet) (target source : ι)
    (met : ι → ReplicaSet) : Prop where
  observes : ∀ i, (met i).Observes r
  kept : ∀ i, i ≠ target → ∀ id, (met i).status? id = (observers i).status? id
  joined : ∀ id ∈ r.members, id ∉ r.inactive → ∀ s t, (observers target).status? id = some s →
    (observers source).status? id = some t → (met target).status? id = some (s.merge t)

/-- Absorbing the record of another observer is no error. -/
lemma absorbFrom_value (observes : ∀ i, (observers i).Observes r) (target source : ι)
    (request : RequestId) :
    ∃ met, absorbFrom target observers request source = (.ok (), met) ∧
      Meets r observers target source met := by
  obtain ⟨next, after, value, observesNext, concurs, joined⟩ :=
    (observes target).absorb (observes source) request
  have given : ∀ i, (Function.update observers source after i).Concurs (observers i) :=
    (Function.forall_update_iff observers fun i m => m.Concurs (observers i)).2
      ⟨concurs, fun i _ => .refl _⟩
  refine ⟨_, by rw [absorbFrom, value], ?_, ?_, ?_⟩
  · exact (Function.forall_update_iff _ fun _ m => Observes m r).2
      ⟨observesNext, fun i _ => (observes i).of_concurs (given i)⟩
  · intro i ne id
    rw [Function.update_of_ne ne]
    exact (given i).status id
  · rw [Function.update_self]
    exact joined

/-- The worst that is told is not lost when an observer absorbs the record of another one. -/
lemma Meets.isGreatest (meets : Meets r observers target source met)
    (observes : ∀ i, (observers i).Observes r) (mem : id ∈ r.members) (active : id ∉ r.inactive)
    (greatest : IsGreatest (answers met id (insert target who)) top) :
    IsGreatest (answers observers id (insert target (insert source who))) top := by
  obtain ⟨s, t, known, seen, worse⟩ :=
    (observes target).exists_statuses (observes source) mem active
  have joined := meets.joined id mem active s t known seen
  have above : s.merge t ≤ top := greatest.2 (mem_answers.2 ⟨target, .inl rfl, joined⟩)
  constructor
  · obtain ⟨i, given, told⟩ := mem_answers.1 greatest.1
    rw [mem_answers]
    by_cases own : i = target
    · -- the join is one of the two statuses
      rw [own, joined] at told
      cases told
      rcases worse.1 with eq | eq
      · exact ⟨target, .inl rfl, known.trans (congrArg some eq.symm)⟩
      · exact ⟨source, .inr (.inl rfl), seen.trans (congrArg some eq.symm)⟩
    · rw [meets.kept i own] at told
      exact ⟨i, .inr (.inr (given.resolve_left own)), told⟩
  · intro u answered
    obtain ⟨i, given, told⟩ := mem_answers.1 answered
    by_cases own : i = target
    · rw [own, known] at told
      cases told
      exact (worse.2 (.inl rfl)).trans above
    · rcases given.resolve_left own with rfl | given
      · rw [seen] at told
        cases told
        exact (worse.2 (.inr rfl)).trans above
      · rw [← meets.kept i own] at told
        exact greatest.2 (mem_answers.2 ⟨i, .inr given, told⟩)

/-- Whoever absorbs the records of others in whatever order ends with the worst that any of them or
itself told. -/
lemma absorbAll_value (observes : ∀ i, (observers i).Observes r) (target : ι)
    (order : List (RequestId × ι)) :
    (absorbAll target observers order).1 = .ok () ∧
      ∀ id ∈ r.members, id ∉ r.inactive → ∃ top,
        ((absorbAll target observers order).2 target).status? id = some top ∧
        IsGreatest (answers observers id (insert target {i | i ∈ order.map (·.2)})) top := by
  induction order generalizing observers with
  | nil =>
    refine ⟨rfl, fun id mem active => ?_⟩
    obtain ⟨s, -, known, -, -⟩ := (observes target).exists_statuses (observes target) mem active
    refine ⟨s, known, mem_answers.2 ⟨target, .inl rfl, known⟩, fun u answered => ?_⟩
    obtain ⟨i, rfl | given, told⟩ := mem_answers.1 answered
    · rw [known] at told
      cases told
      exact le_refl _
    · cases given
  | cons first order ih =>
    obtain ⟨met, value, meets⟩ := absorbFrom_value observes target first.2 first.1
    obtain ⟨done, tops⟩ := ih meets.observes
    simp only [absorbAll, value]
    refine ⟨done, fun id mem active => ?_⟩
    obtain ⟨top, told, greatest⟩ := tops id mem active
    have sources : {i | i ∈ (first :: order).map (·.2)} =
        insert first.2 {i | i ∈ order.map (·.2)} := by
      ext i
      simp
    rw [sources]
    exact ⟨top, told, meets.isGreatest observes mem active greatest⟩

/-! ## One record for another -/

/-- Two observers that absorb each other's records tell the same join of each active member. -/
lemma absorb_absorb (own : m.Observes r) (theirs : other.Observes r)
    (request request' : RequestId) :
    ∃ next after next' after', (m.absorb request other).value = (.ok (), next, after) ∧
      (after.absorb request' next).value = (.ok (), next', after') ∧
      ∀ id ∈ r.members, id ∉ r.inactive → ∃ s t, m.status? id = some s ∧
        other.status? id = some t ∧ IsGreatest {s, t} (s.merge t) ∧
        next'.status? id = some (s.merge t) ∧ after'.status? id = some (s.merge t) := by
  obtain ⟨next, after, value, observes, concurs, joined⟩ := own.absorb theirs request
  obtain ⟨next', after', value', -, concurs', joined'⟩ :=
    (theirs.of_concurs concurs).absorb observes request'
  refine ⟨next, after, next', after', value, value', fun id mem active => ?_⟩
  obtain ⟨s, t, known, seen, worse⟩ := own.exists_statuses theirs mem active
  have told := joined id mem active s t known seen
  have back := joined' id mem active t (s.merge t) ((concurs.status id).trans seen) told
  -- what comes back is already above what was told
  rw [Status.merge_eq_right (worse.2 (.inr rfl))] at back
  exact ⟨s, t, known, seen, worse, back, (concurs'.status id).trans told⟩

/-- Observers of one roster have recorded statuses in any way. Absorbing their records is never an
error; the one that has absorbed all others, in any order and with any repetitions, answers the
worst that any of them did for a member that is not inactive; and two of them that absorb each
other's record both answer the worse of what they did. -/
theorem observers_converge [Fintype ι] [Nonempty ι] (rosters : ∀ i, (observers i).toRoster = r)
    (watched : ∀ i, (observers i).Watched) :
    (∀ target order, (absorbAll target observers order).1 = .ok ()) ∧
    (∀ id : InstanceId, id ∈ r.members → id ∉ r.inactive → ∃ worst,
      IsGreatest (answers observers id Set.univ) worst ∧
      ∀ target order, (∀ i, i ≠ target → i ∈ order.map (·.2)) →
        (((absorbAll target observers order).2 target).statusOf id).value.1 = .ok worst) ∧
    ∀ i j request request',
      let first := ((observers i).absorb request (observers j)).value
      let second := (first.2.2.absorb request' first.2.1).value
      first.1 = .ok () ∧ second.1 = .ok () ∧
      ∀ id : InstanceId, id ∈ r.members → id ∉ r.inactive → ∃ worst,
        IsGreatest (answers observers id {i, j}) worst ∧
        (second.2.1.statusOf id).value.1 = .ok worst ∧
        (second.2.2.statusOf id).value.1 = .ok worst := by
  have observes : ∀ i, (observers i).Observes r := fun i => ⟨rosters i, (watched i).inFamily⟩
  refine ⟨fun target order => (absorbAll_value observes target order).1, ?_, ?_⟩
  · intro id mem active
    have reached : ∀ target order, (∀ i, i ≠ target → i ∈ order.map (·.2)) → ∃ top,
        ((absorbAll target observers order).2 target).status? id = some top ∧
        IsGreatest (answers observers id Set.univ) top := by
      intro target order all
      have everybody : insert target {i | i ∈ order.map (·.2)} = Set.univ := by
        ext i
        simpa [or_iff_not_imp_left] using all i
      rw [← everybody]
      exact (absorbAll_value observes target order).2 id mem active
    obtain ⟨someone⟩ := ‹Nonempty ι›
    obtain ⟨worst, -, greatest⟩ :=
      reached someone (Finset.univ.toList.map fun i => (RequestId.nil, i)) (by simp)
    refine ⟨worst, greatest, fun target order all => ?_⟩
    obtain ⟨top, told, greatest'⟩ := reached target order all
    rw [statusOf_eq_ok_iff, told, greatest'.unique greatest]
  · intro i j request request'
    obtain ⟨next, after, next', after', value, value', both⟩ :=
      absorb_absorb (observes i) (observes j) request request'
    simp only [value, value', true_and]
    intro id mem active
    obtain ⟨s, t, known, seen, worse, told, told'⟩ := both id mem active
    have pair : answers observers id {i, j} = {s, t} := by
      ext u
      simp [mem_answers, known, seen, eq_comm]
    exact ⟨s.merge t, pair ▸ worse, statusOf_eq_ok_iff.2 told, statusOf_eq_ok_iff.2 told'⟩

/-- Of three observers one saw that a secondary serves no reads any more, one that it is down. -/
theorem observers_converge_down :
    ∃ observers : Fin 3 → ReplicaSet,
      ((observers 0).statusOf 2).value.1 = .ok .secondaryReadDown ∧
      ((observers 1).statusOf 2).value.1 = .ok .secondaryDown ∧
      ((observers 2).statusOf 2).value.1 = .ok .secondary ∧
      (((absorbAll 0 observers [(.nil, 2), (.nil, 1)]).2 0).statusOf 2).value.1
        = .ok .secondaryDown ∧
      (((absorbAll 2 observers [(.nil, 1), (.nil, 0), (.nil, 1)]).2 2).statusOf 2).value.1
        = .ok .secondaryDown := by
  let start : ReplicaSet := .ofRoster
    { version := ⟨1, 0⟩, primary := 1, secondaries := .ofList [2, 3], inactive := .ofList [4] }
  let observers : Fin 3 → ReplicaSet :=
    ![(start.mark 2 .secondaryReadDown).value.2, (start.mark 2 .secondaryDown).value.2,
      (start.statusOf 1).value.2]
  have rosters : ∀ i, (observers i).toRoster = start.toRoster := by decide
  have fresh : start.Watched := .fresh rfl
  have watched : ∀ i, (observers i).Watched := by
    rw [Fin.forall_fin_succ, Fin.forall_fin_two]
    exact ⟨.mark 2 .secondaryReadDown fresh, .mark 2 .secondaryDown fresh, .ask 1 fresh⟩
  obtain ⟨-, converge, -⟩ := observers_converge rosters watched
  obtain ⟨worst, greatest, reached⟩ := converge 2 (by decide) (by decide)
  have down : worst = .secondaryDown := by
    rcases greatest.2 (show .secondaryDown ∈ answers observers 2 _ from ⟨1, trivial, rfl⟩) with
      eq | ⟨-, lower⟩
    · exact eq.symm
    · -- no status is worse
      revert lower
      cases worst <;> decide
  rw [down] at reached
  exact ⟨observers, rfl, rfl, rfl, reached 0 _ (by decide), reached 2 _ (by decide)⟩

end ReplicaQuorum.ReplicaSet
