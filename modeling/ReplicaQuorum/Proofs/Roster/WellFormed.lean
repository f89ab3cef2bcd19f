import Mathlib.Data.List.Pairwise
import ReplicaQuorum.Proofs.IdSet.Size
import ReplicaQuorum.ReplicaSet

/-!
# Well formed rosters

The checks that a roster has to pass before it is built find no violation exactly if the roster is
well formed. In a well formed roster an instance holds one role at most, so the number of roles that
are filled is the number of members.
-/

namespace ReplicaQuorum

/-- Every role is checked. -/
lemma Role.mem_all (role : Role) : role ∈ Role.all := by
  cases role <;> decide

/-- Two sets share no member if there is no first one. -/
lemma IdSet.firstCommon_eq_none_iff {s t : IdSet} :
    s.firstCommon t = none ↔ ∀ id, id ∈ s → id ∉ t := by
  simp [firstCommon]

namespace Roster

variable {r : Roster} {id : InstanceId}

/-- An instance is a secondary of some kind if it holds one of the roles. -/
lemma isSecondaryOfAnyKind_iff : r.isSecondaryOfAnyKind id ↔ ∃ role, id ∈ r.inRole role := by
  simp [isSecondaryOfAnyKind, Role.mem_all]

/-- An instance that is not known is neither the primary nor in a role nor registered. -/
lemma contains_eq_false_iff :
    r.contains id = false ↔
      r.primary ≠ id ∧ (∀ role, id ∉ r.inRole role) ∧ r.secondaryCandidate ≠ some id := by
  simp [contains, ← Bool.not_eq_true, isSecondaryOfAnyKind_iff, and_assoc]

/-! ## The checks -/

/-- No complaint is made of the primary exactly if it has no other role. -/
lemma primaryOverlap?_eq_none_iff :
    r.primaryOverlap? = none ↔ ∀ role, r.primary ∉ r.inRole role := by
  simp [primaryOverlap?, Role.mem_all]

/-- No complaint is made of a role against others exactly if it shares nobody with them. -/
lemma overlapAfter?_eq_none_iff {left : Role} {rights : List Role} :
    r.overlapAfter? left rights = none ↔
      ∀ right ∈ rights, ∀ id, id ∈ r.inRole left → id ∉ r.inRole right := by
  simp [overlapAfter?, IdSet.firstCommon_eq_none_iff]

/-- No complaint is made of several roles exactly if no two of them share anybody. -/
lemma overlap?_eq_none_iff {roles : List Role} :
    r.overlap? roles = none ↔
      roles.Pairwise fun left right => ∀ id, id ∈ r.inRole left → id ∉ r.inRole right := by
  induction roles with
  | nil => simp [overlap?]
  | cons left rights ih =>
    simp [overlap?, Option.or_eq_none_iff, overlapAfter?_eq_none_iff, ih]

/-- No two roles overlap if no instance holds two of them. -/
lemma overlap?_all_eq_none_iff :
    r.overlap? Role.all = none ↔
      ∀ left right id, id ∈ r.inRole left → id ∈ r.inRole right → left = right := by
  rw [overlap?_eq_none_iff]
  constructor
  · intro apart left right id memLeft memRight
    by_contra ne
    have : Std.Symm fun left right => ∀ id, id ∈ r.inRole left → id ∉ r.inRole right :=
      ⟨fun _ _ h id memRight memLeft => h id memLeft memRight⟩
    exact apart.forall left.mem_all right.mem_all ne id memLeft memRight
  · intro unique
    have distinct : Role.all.Pairwise (· ≠ ·) := by decide
    exact distinct.imp fun ne id memLeft memRight => ne (unique _ _ id memLeft memRight)

/-- No complaint is made of the primary candidate exactly if it is a secondary. -/
lemma strayPrimaryCandidate?_eq_none_iff :
    r.strayPrimaryCandidate? = none ↔ ∀ id, r.primaryCandidate = some id → id ∈ r.secondaries := by
  simp [strayPrimaryCandidate?]

/-- No complaint is made of the secondary candidate exactly if it has no role yet. -/
lemma knownSecondaryCandidate?_eq_none_iff :
    r.knownSecondaryCandidate? = none ↔
      ∀ id, r.secondaryCandidate = some id → id ≠ r.primary ∧ ∀ role, id ∉ r.inRole role := by
  simp [knownSecondaryCandidate?, isSecondaryOfAnyKind_iff]

/-- The checks find nothing exactly if the roster is well formed. -/
lemma violation?_eq_none_iff : r.violation? = none ↔ r.WellFormed := by
  simp only [violation?, Option.or_eq_none_iff, primaryOverlap?_eq_none_iff,
    overlap?_all_eq_none_iff, strayPrimaryCandidate?_eq_none_iff,
    knownSecondaryCandidate?_eq_none_iff]
  constructor
  · rintro ⟨primary, disjoint, nominee, candidate⟩
    exact ⟨primary, disjoint, nominee, fun id h => (candidate id h).1,
      fun id h => (candidate id h).2⟩
  · rintro ⟨primary, disjoint, nominee, ne, notMem⟩
    exact ⟨primary, disjoint, nominee, fun id h => ⟨ne id h, notMem id h⟩⟩

instance (r : Roster) : Decidable r.WellFormed :=
  decidable_of_iff _ violation?_eq_none_iff

/-! ## Members -/

/-- The members are the primary and whoever holds one of the roles. -/
lemma mem_members : id ∈ r.members ↔ r.primary = id ∨ ∃ role, id ∈ r.inRole role := by
  simp only [members, allSecondaries, IdSet.mem_insert, IdSet.mem_union]
  constructor
  · rintro (eq | ((mem | mem) | mem) | mem)
    · exact .inl eq.symm
    · exact .inr ⟨.secondary, mem⟩
    · exact .inr ⟨.arbiter, mem⟩
    · exact .inr ⟨.inactive, mem⟩
    · exact .inr ⟨.joining, mem⟩
  · rintro (eq | ⟨role, mem⟩)
    · exact .inl eq.symm
    · cases role with
      | secondary => exact .inr (.inl (.inl (.inl mem)))
      | arbiter => exact .inr (.inl (.inl (.inr mem)))
      | inactive => exact .inr (.inl (.inr mem))
      | joining => exact .inr (.inr mem)

/-- The instances that are known are the members and the one that is registered to replace one. -/
lemma contains_iff : r.contains id ↔ id ∈ r.members ∨ r.secondaryCandidate = some id := by
  simp [contains, mem_members, isSecondaryOfAnyKind_iff]

/-- A roster contains its members. -/
lemma contains_of_mem_members (mem : id ∈ r.members) : r.contains id :=
  contains_iff.2 (.inl mem)

/-- The secondaries in use are those in a role other than the inactive one. -/
lemma mem_aliveSecondaries :
    id ∈ r.aliveSecondaries ↔ ∃ role, role ≠ .inactive ∧ id ∈ r.inRole role := by
  simp only [aliveSecondaries, IdSet.mem_union]
  constructor
  · rintro ((mem | mem) | mem)
    · exact ⟨.secondary, by decide, mem⟩
    · exact ⟨.arbiter, by decide, mem⟩
    · exact ⟨.joining, by decide, mem⟩
  · rintro ⟨role, alive, mem⟩
    cases role with
    | secondary => exact .inl (.inl mem)
    | arbiter => exact .inl (.inr mem)
    | inactive => exact absurd rfl alive
    | joining => exact .inr mem

/-- An instance that holds one role holds no other one. -/
lemma WellFormed.notMem_of_ne (wf : r.WellFormed) {left right : Role} (mem : id ∈ r.inRole left)
    (ne : left ≠ right) : id ∉ r.inRole right :=
  fun mem' => ne (wf.disjoint left right id mem mem')

/-- Sets that hold different roles have no member in common. -/
lemma WellFormed.apart (wf : r.WellFormed) (left right : Role) (ne : left ≠ right) :
    ∀ id, id ∈ r.inRole left → id ∉ r.inRole right :=
  fun _ mem => wf.notMem_of_ne mem ne

/-- The filled roles of the secondaries and arbiters are as many as these. -/
lemma WellFormed.size_secondariesAndArbiters (wf : r.WellFormed) :
    r.secondariesAndArbiters.size = r.secondaries.size + r.arbiters.size :=
  IdSet.size_union (wf.apart .secondary .arbiter nofun)

/-- No secondary or arbiter holds one of the other roles. -/
lemma WellFormed.apart_secondariesAndArbiters (wf : r.WellFormed) (role : Role)
    (ne_secondary : .secondary ≠ role) (ne_arbiter : .arbiter ≠ role) :
    ∀ id, id ∈ r.secondariesAndArbiters → id ∉ r.inRole role := by
  intro id mem
  rcases IdSet.mem_union.1 mem with mem | mem
  · exact wf.apart .secondary role ne_secondary id mem
  · exact wf.apart .arbiter role ne_arbiter id mem

/-- The filled roles besides the primary's and the inactive ones are as many as the secondaries in
use. -/
lemma WellFormed.size_aliveSecondaries (wf : r.WellFormed) :
    r.aliveSecondaries.size = r.secondaries.size + r.arbiters.size + r.joining.size := by
  have joining : ∀ id, id ∈ r.secondariesAndArbiters → id ∉ r.joining :=
    wf.apart_secondariesAndArbiters .joining nofun nofun
  rw [← wf.size_secondariesAndArbiters]
  exact IdSet.size_union joining

/-- The filled roles besides the primary's are as many as the secondaries of any kind. -/
lemma WellFormed.size_allSecondaries (wf : r.WellFormed) :
    r.allSecondaries.size
      = r.secondaries.size + r.arbiters.size + r.inactive.size + r.joining.size := by
  have inactive : ∀ id, id ∈ r.secondariesAndArbiters → id ∉ r.inactive :=
    wf.apart_secondariesAndArbiters .inactive nofun nofun
  have joining : ∀ id, id ∈ r.secondariesAndArbiters ∪ r.inactive → id ∉ r.joining := by
    intro id mem
    rcases IdSet.mem_union.1 mem with mem | mem
    · exact wf.apart_secondariesAndArbiters .joining nofun nofun id mem
    · exact wf.apart .inactive .joining nofun id mem
  rw [← wf.size_secondariesAndArbiters, ← IdSet.size_union inactive]
  exact IdSet.size_union joining

/-- The filled roles are as many as the members. -/
lemma WellFormed.size_members (wf : r.WellFormed) : r.members.size = r.size := by
  have primary : r.primary ∉ r.allSecondaries := by
    simp only [allSecondaries, IdSet.mem_union, not_or]
    exact ⟨⟨⟨wf.primary_notMem .secondary, wf.primary_notMem .arbiter⟩,
      wf.primary_notMem .inactive⟩, wf.primary_notMem .joining⟩
  rw [members, IdSet.size_insert primary, wf.size_allSecondaries, size]
  omega

/-- The filled roles but the inactive ones are as many as the primary and the secondaries in use. -/
lemma WellFormed.aliveSize_eq (wf : r.WellFormed) :
    r.aliveSize = 1 + r.aliveSecondaries.size := by
  rw [wf.size_aliveSecondaries, aliveSize]
  omega

end Roster
end ReplicaQuorum
