import ReplicaQuorum.Proofs.Transition.Run

/-!
# Who stays and who goes

Transitions that move members between roles lose nobody and invent nobody, and move nobody but the
instance they name and a primary that is succeeded; so the members stay the same along every run of
them. A replacement takes one instance out and brings another one in. It keeps the size as long as
there was somebody to take out: the registered candidate is known but is no member, and where it is
the one to be replaced the replica set grows.
-/

namespace ReplicaQuorum

namespace Roster

/-- The instance is primary, or in a role, in the second roster exactly if it was in the first. -/
structure KeepsRole (r next : Roster) (id : InstanceId) : Prop where
  primary : next.primary = id ↔ r.primary = id
  role : ∀ role, id ∈ next.inRole role ↔ id ∈ r.inRole role

variable {r : Roster} {id : InstanceId}

/-- An instance keeps its role where nothing changes. -/
lemma KeepsRole.refl (r : Roster) (id : InstanceId) : r.KeepsRole r id :=
  ⟨.rfl, fun _ => .rfl⟩

/-- The primary holds no other role. -/
lemma WellFormed.ne_primary (wf : r.WellFormed) (held : ∃ role, id ∈ r.inRole role) :
    r.primary ≠ id := by
  obtain ⟨role, mem⟩ := held
  rintro rfl
  exact wf.primary_notMem role mem

/-- The registered candidate is no member. -/
lemma WellFormed.candidate_notMem_members (wf : r.WellFormed)
    (registered : r.secondaryCandidate = some id) : id ∉ r.members := by
  rw [mem_members]
  rintro (eq | ⟨role, mem⟩)
  · exact wf.secondaryCandidate_ne id registered eq.symm
  · exact wf.secondaryCandidate_notMem id registered role mem

end Roster

namespace Change.Makes

variable {c : Change} {r next : Roster} {a : Advance} {id : InstanceId}

/-- The members after a step are its primary, whoever stays in a role and whoever enters one. -/
lemma mem_members (makes : c.Makes r a next) :
    id ∈ next.members ↔
      c.primary = id ∨ (∃ role, id ∈ r.inRole role) ∧ id ∉ c.leaving ∨ id ∈ c.entering := by
  rw [Roster.mem_members, makes.primary_eq]
  constructor
  · rintro (eq | ⟨role, mem⟩)
    · exact .inl eq
    · rcases (makes.moves role id).1 mem with ⟨mem, stays⟩ | ⟨enters, -⟩
      · exact .inr (.inl ⟨⟨role, mem⟩, stays⟩)
      · exact .inr (.inr enters)
  · rintro (eq | ⟨⟨role, mem⟩, stays⟩ | enters)
    · exact .inl eq
    · exact .inr ⟨role, (makes.moves role id).2 (.inl ⟨mem, stays⟩)⟩
    · exact .inr ⟨c.role, (makes.moves c.role id).2 (.inr ⟨enters, rfl⟩)⟩

/-- Whoever neither leaves nor enters a role keeps its own. -/
lemma keepsRole (makes : c.Makes r a next) (stays : id ∉ c.leaving) (away : id ∉ c.entering)
    (primary : c.primary = id ↔ r.primary = id) : r.KeepsRole next id where
  primary := by rw [makes.primary_eq, primary]
  role role := by
    rw [makes.moves role id]
    simp only [stays, away, not_false_eq_true, and_true, false_and, or_false]

end Change.Makes

/-! ## Moves between roles -/

/-- The change moves an instance between roles, if it moves any: the primary stays and the instance
leaves one role for another, or a secondary succeeds the primary, which takes a role. -/
inductive Change.MovesOnly (c : Change) (r : Roster) (id : InstanceId) : Prop where
  | nobody (primary : c.primary = r.primary) (leaving : c.leaving = []) (entering : c.entering = [])
  | own (held : ∃ role, id ∈ r.inRole role) (primary : c.primary = r.primary)
    (leaving : c.leaving = [id]) (entering : c.entering = [id])
  | succession (held : ∃ role, id ∈ r.inRole role) (primary : c.primary = id)
    (leaving : c.leaving = [id]) (entering : c.entering = [r.primary])

namespace Change.MovesOnly

variable {c : Change} {r next : Roster} {a : Advance} {id : InstanceId}

/-- Where a member only changes its role, the members stay the same. -/
lemma members_eq (only : c.MovesOnly r id) (makes : c.Makes r a next) :
    next.members = r.members := by
  ext x
  rw [makes.mem_members, Roster.mem_members]
  cases only with
  | nobody primary leaving entering => simp [primary, leaving, entering]
  | own held primary leaving entering =>
    by_cases eq : x = id
    · subst eq
      simp [leaving, entering, held]
    · simp [primary, leaving, entering, eq]
  | succession held primary leaving entering =>
    by_cases eq : x = id
    · subst eq
      simp [primary, held]
    · simp [primary, leaving, entering, eq, Ne.symm eq, eq_comm, or_comm]

/-- Everybody but the instance and a primary that is succeeded keeps the role. -/
lemma keepsRole (only : c.MovesOnly r id) (makes : c.Makes r a next) {other : InstanceId}
    (ne : other ≠ id) (old : next.primary ≠ r.primary → other ≠ r.primary) :
    r.KeepsRole next other := by
  cases only with
  | nobody primary leaving entering =>
    exact makes.keepsRole (by simp [leaving]) (by simp [entering]) (by rw [primary])
  | own held primary leaving entering =>
    exact makes.keepsRole (by simp [leaving, ne]) (by simp [entering, ne]) (by rw [primary])
  | succession held primary leaving entering =>
    have away : other ≠ r.primary := by
      rintro rfl
      refine old ?_ rfl
      rw [makes.primary_eq, primary]
      exact Ne.symm ne
    refine makes.keepsRole (by simp [leaving, ne]) (by simp [entering, away]) ?_
    rw [primary]
    exact iff_of_false (Ne.symm ne) (Ne.symm away)

end Change.MovesOnly

namespace Transition

/-- The instance that a transition moves between roles or gives a part to play, where it is one of
those that leave the members as they are. -/
def moved? : Transition → Option InstanceId
  | electPrimary id | arbiterToInactive id | aliveToInactive id | joiningToSecondary id
  | joiningToInactive id | inactiveToJoining id | inactiveToArbiter id | nominatePrimary id
  | promoteNominee id | appointTempPrimary id | appointTempPrimaryBy id _
  | selectPotentialPrimary id | addCandidate id | removeCandidate id => some id
  | _ => none

variable {t : Transition} {m n : ReplicaSet} {a : Advance} {next : Roster} {id old new : InstanceId}

/-- A transition that moves one member moves nobody else. -/
lemma movesOnly_of_moved? (moves : t.moved? = some id)
    (step : (t.effect m).next? = some (a, next)) :
    (t.change m.toRoster).MovesOnly m.toRoster id := by
  cases t <;> simp only [moved?, reduceCtorEq, Option.some.injEq] at moves <;> subst moves <;>
    simp only [effect, Effect.next?_whenever, Effect.next?_only, Effect.next?_ite,
      Bool.and_eq_true, Bool.or_eq_true, decide_eq_true_eq] at step
  case electPrimary id =>
    rcases step with ⟨same, -⟩ | ⟨other, held, -⟩
    · rw [change, if_pos same]
      exact .nobody same.symm rfl rfl
    · rw [change, if_neg other]
      exact .succession ⟨.secondary, held⟩ rfl rfl rfl
  case promoteNominee id => exact .succession ⟨.secondary, step.1.1⟩ rfl rfl rfl
  case arbiterToInactive id => exact .own ⟨.arbiter, step.1⟩ rfl rfl rfl
  case aliveToInactive id =>
    rcases step.1 with held | held
    · exact .own ⟨.secondary, held⟩ rfl rfl rfl
    · exact .own ⟨.joining, held⟩ rfl rfl rfl
  case joiningToSecondary id => exact .own ⟨.joining, step.1⟩ rfl rfl rfl
  case joiningToInactive id => exact .own ⟨.joining, step.1⟩ rfl rfl rfl
  case inactiveToJoining id => exact .own ⟨.inactive, step.1⟩ rfl rfl rfl
  case inactiveToArbiter id => exact .own ⟨.inactive, step.1⟩ rfl rfl rfl
  all_goals exact .nobody rfl rfl rfl

/-- A transition that moves members between roles keeps the members, and everybody's role but that
of the instance it names and of a primary that is succeeded. -/
lemma members_of_moved? (wf : m.WellFormed) (moves : t.moved? = some id)
    (given : t.outcome m = .ok (some n)) :
    n.members = m.members ∧ ∀ other, other ≠ id → (n.primary ≠ m.primary → other ≠ m.primary) →
      m.KeepsRole n.toRoster other := by
  rcases outcome_cases given with rfl | ⟨a, next, version, step, -, eq⟩
  · exact ⟨rfl, fun other _ _ => .refl _ other⟩
  · have only := movesOnly_of_moved? moves step
    have makes := effect_makes wf step
    have members : next.members = m.members := only.members_eq makes
    rw [eq]
    refine ⟨members, fun other ne old => ?_⟩
    have kept := only.keepsRole makes ne old
    exact ⟨kept.primary, kept.role⟩

end Transition

/-- Along a run of such moves the members stay the same. -/
lemma Run.members_eq {m n : ReplicaSet} {ts : List Transition} (run : Run m ts n)
    (wf : m.WellFormed) (moves : ∀ t ∈ ts, t.moved?.isSome) : n.members = m.members := by
  induction run with
  | nil => rfl
  | snoc before given ih =>
    obtain ⟨movesBefore, moved⟩ := List.forall_mem_append.1 moves
    obtain ⟨id, moved⟩ := Option.isSome_iff_exists.1 (moved _ (List.mem_singleton_self _))
    rw [← ih movesBefore]
    exact (Transition.members_of_moved? (before.wellFormed wf) moved given).1

/-- Moves between roles lose and invent nobody. Whenever one of them gives a replica set, the
members and their number are as before, and everybody but the instance it names, and a primary that
is succeeded, is in the role of before; and along a run of any length the members stay the same. -/
theorem role_moves_conserve_members {m : ReplicaSet} (wf : m.WellFormed) :
    (∀ t id n, Transition.moved? t = some id → t.outcome m = .ok (some n) →
      n.members = m.members ∧ n.size = m.size ∧
      ∀ other, other ≠ id → (n.primary ≠ m.primary → other ≠ m.primary) →
        m.KeepsRole n.toRoster other) ∧
    (∀ ts n, (∀ t ∈ ts, (Transition.moved? t).isSome) → Run m ts n →
      n.members = m.members ∧ n.size = m.size) := by
  -- in a well formed replica set the size counts the members
  have size_eq : ∀ n : ReplicaSet, n.WellFormed → n.members = m.members → n.size = m.size := by
    intro n wf' same
    rw [← wf'.size_members, same, wf.size_members]
  constructor
  · intro t id n moves given
    obtain ⟨same, others⟩ := Transition.members_of_moved? wf moves given
    exact ⟨same, size_eq n (Transition.wellFormed_of_outcome wf given) same, others⟩
  · intro ts n moves run
    have same := run.members_eq wf moves
    exact ⟨same, size_eq n (run.wellFormed wf) same⟩

/-- A temporary primary was appointed, so the primary that is succeeded becomes inactive, and joins
again later; another secondary and an arbiter stay what they are. -/
theorem role_moves_conserve_members_failover :
    ∃ m n k : ReplicaSet, Content.decode "1,0,1,3,2:3,4,,,-1,-1" = .ok m ∧ m.WellFormed ∧
      Transition.outcome (.electPrimary 2) m = .ok (some n) ∧ n.inactive = .ofList [1] ∧
      n.members = m.members ∧ n.size = m.size ∧ m.KeepsRole n.toRoster 3 ∧
      m.KeepsRole n.toRoster 4 ∧ Run m [.electPrimary 2, .inactiveToJoining 1] k ∧
      k.joining = .ofList [1] ∧ k.members = m.members ∧ k.size = m.size := by
  let m : ReplicaSet := .ofRoster
    { version := ⟨1, 0⟩, primary := 1, tempPrimary := some 3, secondaries := .ofList [2, 3],
      arbiters := .ofList [4] }
  let n : ReplicaSet := .ofRoster
    { version := ⟨2, 0⟩, primary := 2, secondaries := .ofList [3], arbiters := .ofList [4],
      inactive := .ofList [1] }
  let k : ReplicaSet := .ofRoster
    { version := ⟨2, 1⟩, primary := 2, secondaries := .ofList [3], arbiters := .ofList [4],
      joining := .ofList [1] }
  have content : Content.decode "1,0,1,3,2:3,4,,,-1,-1" = .ok m := by rfl
  have wf : m.WellFormed := by decide
  have elect : Transition.outcome (.electPrimary 2) m = .ok (some n) := by rfl
  have join : Transition.outcome (.inactiveToJoining 1) n = .ok (some k) := by rfl
  have run : Run m [.electPrimary 2, .inactiveToJoining 1] k := .snoc (.snoc .nil elect) join
  obtain ⟨step, runs⟩ := role_moves_conserve_members wf
  obtain ⟨members, size, others⟩ := step (.electPrimary 2) 2 n rfl elect
  obtain ⟨members', size'⟩ := runs _ k (by decide) run
  exact ⟨m, n, k, content, wf, elect, rfl, members, size, others 3 (by decide) (by decide),
    others 4 (by decide) (by decide), run, rfl, members', size'⟩

/-! ## Replacements -/

namespace Transition

/-- Who is to be taken out and who to be brought in, where the transition is a replacement. -/
def replacement? : Transition → Option (InstanceId × InstanceId)
  | replaceSecondary old new => some (old, new)
  | inactiveForArbiter inactive arbiter => some (inactive, arbiter)
  | inactiveForJoining inactive joining => some (inactive, joining)
  | candidateForMember candidate replacee => some (replacee, candidate)
  | _ => none

variable {t : Transition} {m n : ReplicaSet} {a : Advance} {next : Roster} {old new : InstanceId}

/-- A replacement lets one instance leave and another one enter, and keeps the primary. -/
lemma change_of_replacement? (replaces : t.replacement? = some (old, new)) (r : Roster) :
    (t.change r).primary = r.primary ∧ (t.change r).leaving = [old] ∧
      (t.change r).entering = [new] := by
  cases t <;> simp only [replacement?, reduceCtorEq, Option.some.injEq, Prod.mk.injEq] at replaces
  all_goals
    obtain ⟨rfl, rfl⟩ := replaces
    exact ⟨rfl, rfl, rfl⟩

/-- Whoever is replaced holds a role, but for the registered candidate, which one of the
replacements takes for somebody to take out. -/
lemma held_of_replacement? (replaces : t.replacement? = some (old, new))
    (step : (t.effect m).next? = some (a, next)) :
    (∃ role, old ∈ m.inRole role) ∨
      t = .replaceSecondary old new ∧ m.secondaryCandidate = some old := by
  cases t <;>
    simp only [replacement?, reduceCtorEq, Option.some.injEq, Prod.mk.injEq] at replaces <;>
    obtain ⟨rfl, rfl⟩ := replaces <;>
    simp only [effect, Effect.next?_whenever, Effect.next?_only, Bool.and_eq_true,
      Bool.or_eq_true, decide_eq_true_eq] at step
  case replaceSecondary =>
    obtain ⟨⟨⟨known, ne⟩, -⟩, -⟩ := step
    simp only [Roster.contains, Roster.isSecondaryOfAnyKind_iff, Bool.or_eq_true,
      decide_eq_true_eq, ne, false_or] at known
    exact known.imp_right fun registered => ⟨rfl, registered⟩
  case inactiveForArbiter => exact .inl ⟨.inactive, step.1.1⟩
  case inactiveForJoining => exact .inl ⟨.inactive, step.1.1⟩
  case candidateForMember =>
    rcases step.1.2 with (held | held) | held
    · exact .inl ⟨.secondary, held⟩
    · exact .inl ⟨.inactive, held⟩
    · exact .inl ⟨.joining, held⟩

/-- A replacement that changes the replica set takes one instance out of the members and brings
another one in, and everybody else keeps the role. -/
lemma members_of_replacement? (wf : m.WellFormed) (replaces : t.replacement? = some (old, new))
    (step : (t.effect m).next? = some (a, next)) :
    next.members = (m.members.erase old).insert new ∧
    (∀ other, other ≠ old → other ≠ new → m.KeepsRole next other) := by
  have makes := effect_makes wf step
  obtain ⟨primary, leaving, entering⟩ := change_of_replacement? replaces m.toRoster
  have ne : m.primary ≠ old := by
    rcases held_of_replacement? replaces step with held | ⟨-, registered⟩
    · exact wf.ne_primary held
    · exact Ne.symm (wf.secondaryCandidate_ne old registered)
  constructor
  · ext x
    rw [makes.mem_members, IdSet.mem_insert, IdSet.mem_erase, Roster.mem_members, primary, leaving,
      entering, List.mem_singleton, List.mem_singleton]
    have stays : m.primary = x → x ≠ old := fun eq => eq ▸ ne
    tauto
  · intro other ne_old ne_new
    exact makes.keepsRole (by simpa [leaving] using ne_old) (by simpa [entering] using ne_new)
      (by rw [primary])

/-- Whoever is brought in is no member, unless it was taken out before. -/
lemma notMem_of_replacement? (wf : m.WellFormed) (replaces : t.replacement? = some (old, new))
    (step : (t.effect m).next? = some (a, next)) : new ∉ m.members.erase old := by
  have admissible := effect_admissible wf step
  obtain ⟨primary, leaving, entering⟩ := change_of_replacement? replaces m.toRoster
  have enters : new ∈ (t.change m.toRoster).entering := by simp [entering]
  rw [IdSet.mem_erase, Roster.mem_members]
  rintro ⟨eq | held, ne⟩
  · exact admissible.primary_notMem (by rwa [primary, eq])
  · rcases admissible.entering new enters with leaves | notMem
    · exact ne (by simpa [leaving] using leaves)
    · obtain ⟨role, mem⟩ := held
      exact notMem role mem

end Transition

/-- A replacement that changes a replica set makes its members those of before without the old
instance and with the new one, and leaves everybody else in place. It keeps their number exactly if
the old instance is not the registered candidate; that is known but no member, and only
`replaceSecondary` takes it for one, so that nobody goes and the replica set has one member more. -/
theorem replacement_keeps_size_iff {m n : ReplicaSet} {t : Transition} {old new : InstanceId}
    (wf : m.WellFormed) (replaces : t.replacement? = some (old, new))
    (given : t.outcome m = .ok (some n)) (applied : n ≠ m) :
    n.members = (m.members.erase old).insert new ∧
    (∀ other, other ≠ old → other ≠ new → m.KeepsRole n.toRoster other) ∧
    (n.size = m.size ↔ m.secondaryCandidate ≠ some old) ∧
    (m.secondaryCandidate = some old →
      t = .replaceSecondary old new ∧ n.size = m.size + 1) := by
  rcases Transition.outcome_cases given with same | ⟨a, next, version, step, -, eq⟩
  · exact absurd same applied
  have held := Transition.held_of_replacement? replaces step
  obtain ⟨members, others⟩ := Transition.members_of_replacement? wf replaces step
  have fresh := Transition.notMem_of_replacement? wf replaces step
  have members : n.members = (m.members.erase old).insert new := by
    rw [eq]
    exact members
  have size : n.size = (m.members.erase old).size + 1 := by
    rw [← (Transition.wellFormed_of_outcome wf given).size_members, members,
      IdSet.size_insert fresh]
  refine ⟨members, ?_, ?_⟩
  · intro other ne_old ne_new
    have kept := others other ne_old ne_new
    rw [eq]
    exact ⟨kept.primary, kept.role⟩
  by_cases registered : m.secondaryCandidate = some old
  · have stays : m.members.erase old = m.members :=
      IdSet.erase_of_notMem (wf.candidate_notMem_members registered)
    have grows : n.size = m.size + 1 := by rw [size, stays, wf.size_members]
    refine ⟨iff_of_false (by omega) (not_not.2 registered), fun _ => ⟨?_, grows⟩⟩
    rcases held with ⟨role, mem⟩ | ⟨only, -⟩
    · exact absurd mem (wf.secondaryCandidate_notMem old registered role)
    · exact only
  · have member : old ∈ m.members := by
      rcases held with held | ⟨-, candidate⟩
      · exact Roster.mem_members.2 (.inr held)
      · exact absurd candidate registered
    have kept : n.size = m.size := by
      rw [size, IdSet.size_erase member, wf.size_members]
    exact ⟨iff_of_true kept registered, fun candidate => absurd candidate registered⟩

/-- A registered candidate takes the place of a secondary. -/
theorem replacement_keeps_size_candidate :
    ∃ m n : ReplicaSet, Content.decode "1,0,1,-1,2:3,,,,-1,4" = .ok m ∧ m.WellFormed ∧
      Transition.outcome (.candidateForMember 4 3) m = .ok (some n) ∧ n ≠ m ∧
      n.members = (m.members.erase 3).insert 4 ∧ m.KeepsRole n.toRoster 2 ∧ n.size = m.size := by
  let m : ReplicaSet := .ofRoster
    { version := ⟨1, 0⟩, primary := 1, secondaries := .ofList [2, 3], secondaryCandidate := some 4 }
  let n : ReplicaSet := .ofRoster
    { version := ⟨1, 1⟩, primary := 1, secondaries := .ofList [2, 4] }
  have content : Content.decode "1,0,1,-1,2:3,,,,-1,4" = .ok m := by rfl
  have wf : m.WellFormed := by decide
  have given : Transition.outcome (.candidateForMember 4 3) m = .ok (some n) := by rfl
  have applied : n ≠ m := by decide
  obtain ⟨members, others, size, -⟩ := replacement_keeps_size_iff wf rfl given applied
  exact ⟨m, n, content, wf, given, applied, members, others 2 (by decide) (by decide),
    size.2 (by decide)⟩

/-- The registered candidate is replaced by another instance: nobody goes, and there are four
members after it where there were three. -/
theorem replaced_candidate_adds_member :
    ∃ m n : ReplicaSet, Content.decode "1,0,1,-1,2:3,,,,-1,4" = .ok m ∧ m.WellFormed ∧
      Transition.outcome (.replaceSecondary 4 5) m = .ok (some n) ∧ n ≠ m ∧
      m.members = .ofList [1, 2, 3] ∧ n.members = .ofList [1, 2, 3, 5] ∧
      m.size = 3 ∧ n.size = 4 := by
  let m : ReplicaSet := .ofRoster
    { version := ⟨1, 0⟩, primary := 1, secondaries := .ofList [2, 3], secondaryCandidate := some 4 }
  let n : ReplicaSet := .ofRoster
    { version := ⟨1, 1⟩, primary := 1, secondaries := .ofList [2, 3, 5] }
  have content : Content.decode "1,0,1,-1,2:3,,,,-1,4" = .ok m := by rfl
  have wf : m.WellFormed := by decide
  have given : Transition.outcome (.replaceSecondary 4 5) m = .ok (some n) := by rfl
  exact ⟨m, n, content, wf, given, by decide, rfl, rfl, rfl, rfl⟩

end ReplicaQuorum
