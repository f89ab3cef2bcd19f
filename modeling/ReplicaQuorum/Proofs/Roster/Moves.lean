import ReplicaQuorum.Proofs.Roster.WellFormed

/-!
# Moves

How the holders of the roles differ between two rosters, told for every instance and not by how the
sets are edited: some instances leave their roles, some instances enter one role, and nobody else
moves. Each kind of edit of the sets is a move of this form.
-/

namespace ReplicaQuorum.Roster

/-- Some instances leave their roles, then some enter the role `target`, and nobody else moves. -/
def Moves (r next : Roster) (leaving entering : List InstanceId) (target : Role) : Prop :=
  ∀ role id, id ∈ next.inRole role ↔
    id ∈ r.inRole role ∧ id ∉ leaving ∨ id ∈ entering ∧ role = target

variable {r next : Roster} {target : Role}

/-- An instance that holds one of some roles holds none besides them. -/
lemma WellFormed.notMem_of_notMem (wf : r.WellFormed) {out : InstanceId} {origins : List Role}
    (held : ∃ role ∈ origins, out ∈ r.inRole role) : ∀ role ∉ origins, out ∉ r.inRole role := by
  obtain ⟨origin, mem, heldOrigin⟩ := held
  intro role notMem
  exact wf.notMem_of_ne heldOrigin fun eq => notMem (eq ▸ mem)

/-- Nobody moves if the roles are held as before. -/
lemma Moves.none (same : ∀ role, next.inRole role = r.inRole role) : r.Moves next [] [] target := by
  intro role id
  simp [same role]

/-- Instances enter a role. -/
lemma Moves.enter {ids : List InstanceId}
    (edit : ∀ role, next.inRole role =
      if role = target then .ofList ids ∪ r.inRole role else r.inRole role) :
    r.Moves next [] ids target := by
  intro role id
  rw [edit role]
  by_cases h : role = target <;> simp [h, or_comm]

/-- An instance enters a role. -/
lemma Moves.enterOne {id : InstanceId}
    (edit : ∀ role, next.inRole role =
      if role = target then (r.inRole role).insert id else r.inRole role) :
    r.Moves next [] [id] target := by
  intro role x
  rw [edit role]
  by_cases h : role = target <;> simp [h, or_comm]

/-- An instance leaves the only role it holds. -/
lemma Moves.leave {out : InstanceId} (origin : Role) (wf : r.WellFormed)
    (held : out ∈ r.inRole origin)
    (edit : ∀ role, next.inRole role =
      if role = origin then (r.inRole role).erase out else r.inRole role) :
    r.Moves next [out] [] target := by
  intro role x
  rw [edit role]
  by_cases h : role = origin
  · simp [h]
  · have gone : out ∉ r.inRole role := wf.notMem_of_ne held (Ne.symm h)
    simp only [if_neg h, List.mem_singleton, List.not_mem_nil, false_and, or_false]
    exact ⟨fun mem => ⟨mem, fun eq => gone (eq ▸ mem)⟩, fun mem => mem.1⟩

/-- An instance leaves the roles it may hold, and another one or the same enters a role. -/
lemma Moves.swap {out inn : InstanceId} (origins : List Role)
    (gone : ∀ role ∉ origins, out ∉ r.inRole role)
    (edit : ∀ role, next.inRole role =
      let rest := if role ∈ origins then (r.inRole role).erase out else r.inRole role
      if role = target then rest.insert inn else rest) :
    r.Moves next [out] [inn] target := by
  intro role x
  have rest : x ∈ (if role ∈ origins then (r.inRole role).erase out else r.inRole role) ↔
      x ∈ r.inRole role ∧ x ≠ out := by
    by_cases h : role ∈ origins
    · simp [h]
    · rw [if_neg h]
      exact ⟨fun mem => ⟨mem, fun eq => gone role h (eq ▸ mem)⟩, fun mem => mem.1⟩
  rw [edit role]
  by_cases h : role = target
  · subst h
    simp [rest, or_comm]
  · simp [rest, h]

/-- An instance leaves the only role it holds, and another one or the same enters a role. -/
lemma Moves.swapFrom {out inn : InstanceId} (origin : Role) (wf : r.WellFormed)
    (held : out ∈ r.inRole origin)
    (edit : ∀ role, next.inRole role =
      let rest := if role = origin then (r.inRole role).erase out else r.inRole role
      if role = target then rest.insert inn else rest) :
    r.Moves next [out] [inn] target := by
  apply Moves.swap [origin]
  · exact wf.notMem_of_notMem ⟨origin, List.mem_singleton_self origin, held⟩
  · intro role
    simp only [edit role, List.mem_singleton]

/-- Where an instance leaves and nobody but an inactive one enters, the secondaries in use lose the
instance that leaves. -/
lemma Moves.aliveSecondaries_eq {id : InstanceId} {entering : List InstanceId}
    (moves : r.Moves next [id] entering target)
    (idle : entering = [] ∨ target = .inactive) :
    next.aliveSecondaries = r.aliveSecondaries.erase id := by
  ext x
  rw [IdSet.mem_erase, mem_aliveSecondaries, mem_aliveSecondaries]
  constructor
  · rintro ⟨role, alive, mem⟩
    rcases (moves role x).1 mem with ⟨mem, stays⟩ | ⟨enters, rfl⟩
    · exact ⟨⟨role, alive, mem⟩, by simpa using stays⟩
    · rcases idle with nobody | inactive
      · simp [nobody] at enters
      · exact absurd inactive alive
  · rintro ⟨⟨role, alive, mem⟩, ne⟩
    exact ⟨role, alive, (moves role x).2 (.inl ⟨mem, by simpa using ne⟩)⟩

/-! ## Sizes of the roles -/

/-- One instance more holds the role `target`, and one less the role `origin`. -/
def Shifts (r next : Roster) (origin target : Role) : Prop :=
  ∀ role, (next.inRole role).size + (if role = origin then 1 else 0)
    = (r.inRole role).size + (if role = target then 1 else 0)

/-- Whoever leaves a role enters another one, so the filled roles are as many as before. -/
lemma Shifts.size_eq {origin : Role} (shifts : r.Shifts next origin target) :
    next.size = r.size := by
  have once : ∀ role : Role, (if Role.secondary = role then 1 else 0)
      + (if Role.arbiter = role then 1 else 0) + (if Role.inactive = role then 1 else 0)
      + (if Role.joining = role then 1 else 0) = 1 := by
    intro role
    cases role <;> rfl
  have left := once origin
  have entered := once target
  have secondaries := shifts .secondary
  have arbiters := shifts .arbiter
  have inactive := shifts .inactive
  have joining := shifts .joining
  simp only [inRole, Roster.size] at *
  omega

/-- Where nobody moves the roles are as large as before. -/
lemma Moves.shifts_self (moves : r.Moves next [] [] target) (role : Role) :
    r.Shifts next role role := by
  intro x
  have same : next.inRole x = r.inRole x := by
    ext id
    simp [moves x id]
  rw [same]

/-- An instance leaves the only role it holds, and the same one or one without a role enters. -/
lemma Moves.shifts {out inn : InstanceId} {origin : Role} (wf : r.WellFormed)
    (moves : r.Moves next [out] [inn] target) (held : out ∈ r.inRole origin)
    (fresh : inn = out ∨ ∀ role, inn ∉ r.inRole role) : r.Shifts next origin target := by
  intro role
  -- whoever stays in the role
  let rest : IdSet := if role = origin then (r.inRole role).erase out else r.inRole role
  have mem_rest : ∀ x, x ∈ rest ↔ x ∈ r.inRole role ∧ x ≠ out := by
    intro x
    by_cases h : role = origin
    · simp [rest, h]
    · have gone : out ∉ r.inRole role := wf.notMem_of_ne held (Ne.symm h)
      simp only [rest, if_neg h]
      exact ⟨fun mem => ⟨mem, fun eq => gone (eq ▸ mem)⟩, fun mem => mem.1⟩
  have stay : rest.size + (if role = origin then 1 else 0) = (r.inRole role).size := by
    by_cases h : role = origin
    · subst h
      simpa [rest] using IdSet.size_erase held
    · simp [rest, h]
  have enter : (next.inRole role).size = rest.size + (if role = target then 1 else 0) := by
    by_cases h : role = target
    · have new : inn ∉ rest := by
        rw [mem_rest]
        rintro ⟨mem, ne⟩
        rcases fresh with rfl | notMem
        · exact ne rfl
        · exact notMem role mem
      have eq : next.inRole role = rest.insert inn := by
        ext x
        rw [moves role x, IdSet.mem_insert, mem_rest]
        simp [h, or_comm]
      rw [eq, IdSet.size_insert new, if_pos h]
    · have eq : next.inRole role = rest := by
        ext x
        rw [moves role x, mem_rest]
        simp [h]
      rw [eq, if_neg h, Nat.add_zero]
  omega

end ReplicaQuorum.Roster
