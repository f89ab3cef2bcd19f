import ReplicaQuorum.Proofs.Status.Join
import ReplicaQuorum.ReplicaSet.Liveness

/-!
# Recorded statuses

What an observer tells of a member is the status recorded for it, or the one that its role starts
with. Asking records a status and changes nothing that is told; marking changes what is told of one
member if that may move, and nothing if there is an error. A status never leaves the family of the
one that the member's role starts with.
-/

namespace ReplicaQuorum.ReplicaSet

variable {m n next : ReplicaSet} {id other : InstanceId} {s t : Status}

/-- Two observers of one roster that tell the same status of every member. -/
structure Concurs (m n : ReplicaSet) : Prop where
  roster : m.toRoster = n.toRoster
  status : ∀ id, m.status? id = n.status? id

/-- The second observer tells what the first one does, but for one member. -/
structure Moves (m : ReplicaSet) (id : InstanceId) (s : Status) (next : ReplicaSet) : Prop where
  roster : next.toRoster = m.toRoster
  status : ∀ other, next.status? other = if other = id then some s else m.status? other

/-- An observer tells what it tells. -/
lemma Concurs.refl (m : ReplicaSet) : m.Concurs m :=
  ⟨rfl, fun _ => rfl⟩

/-- A status that is recorded is told. -/
lemma status?_of_recorded (recorded : m.statuses.get? id = some s) : m.status? id = some s := by
  rw [status?, recorded, Option.some_or]

/-- Where none is recorded, the status that the role starts with is told. -/
lemma status?_of_unrecorded (unrecorded : m.statuses.get? id = none) :
    m.status? id = m.initialStatus? id := by
  rw [status?, unrecorded, Option.none_or]

/-- What is recorded already is not changed by recording it again. -/
lemma record_of_recorded (recorded : m.statuses.get? id = some s) : m.record id s = m := by
  have same : m.statuses.insert id s = m.statuses := by
    ext key : 1
    rw [IdMap.get?_insert]
    split
    · next eq => rw [eq, recorded]
    · rfl
  rw [record, same]

/-- The status recorded last is the one that counts. -/
lemma record_record : (m.record id s).record id t = m.record id t := by
  have same : (m.statuses.insert id s).insert id t = m.statuses.insert id t := by
    ext key : 1
    simp only [IdMap.get?_insert]
    split <;> rfl
  rw [record, record, record, same]

/-- A status that is recorded is told from then on. -/
lemma moves_record (m : ReplicaSet) (id : InstanceId) (s : Status) :
    m.Moves id s (m.record id s) where
  roster := rfl
  status other := by
    have recorded : (m.record id s).statuses.get? other
        = if other = id then some s else m.statuses.get? other := IdMap.get?_insert
    rw [status?, recorded]
    split <;> rfl

/-- Recording what is told makes no difference. -/
lemma concurs_record (known : m.status? id = some s) : (m.record id s).Concurs m where
  roster := rfl
  status other := by
    rw [(moves_record m id s).status]
    split
    · next eq => rw [eq, known]
    · rfl

/-! ## Asking -/

/-- Asking for a member without a role is an error and changes nothing. -/
lemma statusOf_of_eq_none (unknown : m.status? id = none) :
    (m.statusOf id).value = (.error (.noRole id m), m) := by
  obtain ⟨unrecorded, roleless⟩ := Option.or_eq_none_iff.1 unknown
  rw [statusOf, unrecorded, roleless]

/-- The answer is the status that is told, and it is recorded from then on. -/
lemma statusOf_of_eq_some (known : m.status? id = some s) :
    (m.statusOf id).value = (.ok s, m.record id s) := by
  rw [statusOf]
  cases recorded : m.statuses.get? id with
  | some current =>
    cases (status?_of_recorded recorded).symm.trans known
    exact congrArg (Prod.mk _) (record_of_recorded recorded).symm
  | none => rw [← status?_of_unrecorded recorded, known]

/-- Only an inactive member makes the question worth a notice. -/
lemma notices_statusOf (active : m.status? id ≠ some .inactiveSecondary) :
    (m.statusOf id).notices = [] := by
  rw [statusOf]
  cases recorded : m.statuses.get? id with
  | some current => rfl
  | none =>
    rw [status?_of_unrecorded recorded] at active
    cases starts : m.initialStatus? id with
    | none => rfl
    | some start =>
      rw [starts] at active
      exact if_neg fun inactive => active (congrArg some inactive)

/-- The answer is the status that is told. -/
lemma statusOf_eq_ok_iff : (m.statusOf id).value.1 = .ok s ↔ m.status? id = some s := by
  cases known : m.status? id with
  | none => simp [statusOf_of_eq_none known]
  | some current => simp [statusOf_of_eq_some known]

/-- Asking makes no difference to what is told. -/
lemma concurs_statusOf (m : ReplicaSet) (id : InstanceId) : (m.statusOf id).value.2.Concurs m := by
  cases known : m.status? id with
  | none =>
    rw [statusOf_of_eq_none known]
    exact .refl m
  | some s =>
    rw [statusOf_of_eq_some known]
    exact concurs_record known

/-! ## Marking -/

/-- A member whose status is known moves where it may, and stays otherwise. -/
lemma mark_of_known (contained : m.contains id) (known : m.status? id = some s) (t : Status) :
    m.mark id t =
      if s.canMoveTo t then ⟨(.ok true, m.record id t), (m.statusOf id).notices⟩
      else ⟨(.ok false, m.record id s), (m.statusOf id).notices ++ [moveRejected id s t]⟩ := by
  simp only [mark, contained, statusOf_of_eq_some known, record_record]
  rfl

/-- What marking a member can answer and make of the record. -/
inductive Marking (m : ReplicaSet) (id : InstanceId) (s : Status) :
    Except MembershipError Bool → ReplicaSet → Prop where
  | fails (e : MembershipError) (kind : e.kind = .unknownMember)
    (unknown : m.contains id = false ∨ m.status? id = none) : Marking m id s (.error e) m
  | moves {current next} (contained : m.contains id) (known : m.status? id = some current)
    (legal : current.canMoveTo s) (moves : m.Moves id s next) : Marking m id s (.ok true) next
  | stays {current next} (contained : m.contains id) (known : m.status? id = some current)
    (illegal : ¬current.canMoveTo s) (concurs : next.Concurs m) : Marking m id s (.ok false) next

/-- A mark answers and does one of these things. -/
lemma marking (m : ReplicaSet) (id : InstanceId) (s : Status) :
    Marking m id s (m.mark id s).value.1 (m.mark id s).value.2 := by
  cases contained : m.contains id with
  | false =>
    rw [mark, contained]
    exact .fails _ rfl (.inl contained)
  | true =>
    cases known : m.status? id with
    | none =>
      simp only [mark, contained, statusOf_of_eq_none known]
      exact .fails _ rfl (.inr known)
    | some current =>
      rw [mark_of_known contained known]
      by_cases legal : current.canMoveTo s
      · rw [if_pos legal]
        exact .moves contained known legal (moves_record m id s)
      · rw [if_neg legal]
        exact .stays contained known legal (concurs_record known)

/-- A mark that is an error changes nothing. -/
lemma eq_of_mark_eq_error {e : MembershipError} (failed : (m.mark id s).value = (.error e, next)) :
    next = m := by
  have made := marking m id s
  rw [failed] at made
  cases made with
  | fails => rfl

/-- A mark keeps the roster. -/
lemma toRoster_of_mark {taken : Except MembershipError Bool}
    (marked : (m.mark id s).value = (taken, next)) : next.toRoster = m.toRoster := by
  have made := marking m id s
  rw [marked] at made
  cases made with
  | fails => rfl
  | moves _ _ _ moves => exact moves.roster
  | stays _ _ _ concurs => exact concurs.roster

/-! ## Families -/

/-- What is told of members has the family of the status that their roles start with. -/
def InFamily (m : ReplicaSet) : Prop :=
  ∀ id s, m.status? id = some s → ∃ start, m.initialStatus? id = some start ∧
    s.family = start.family

/-- Where nothing is recorded, everybody is told as the role starts. -/
lemma inFamily_of_empty (empty : m.statuses = ∅) : m.InFamily := by
  intro id s told
  rw [status?, empty, IdMap.get?_empty, Option.none_or] at told
  exact ⟨s, told, rfl⟩

/-- A member of a roster that starts with a status has one of its family. -/
lemma InFamily.exists_status (inFamily : m.InFamily) {start : Status}
    (starts : m.initialStatus? id = some start) :
    ∃ s, m.status? id = some s ∧ s.family = start.family := by
  have isSome : ∃ s, m.status? id = some s := by
    cases recorded : m.statuses.get? id with
    | none => exact ⟨start, (status?_of_unrecorded recorded).trans starts⟩
    | some s => exact ⟨s, status?_of_recorded recorded⟩
  obtain ⟨s, told⟩ := isSome
  obtain ⟨start', starts', same⟩ := inFamily id s told
  rw [starts] at starts'
  cases starts'
  exact ⟨s, told, same⟩

/-- The members that a status is told of are those that start with one. -/
lemma InFamily.exists_status?_iff (inFamily : m.InFamily) :
    (∃ s, m.status? id = some s) ↔ ∃ start, m.initialStatus? id = some start := by
  constructor
  · rintro ⟨s, told⟩
    obtain ⟨start, starts, -⟩ := inFamily id s told
    exact ⟨start, starts⟩
  · rintro ⟨start, starts⟩
    obtain ⟨s, told, -⟩ := inFamily.exists_status starts
    exact ⟨s, told⟩

/-- Where the same is told, families are kept. -/
lemma InFamily.of_concurs (inFamily : m.InFamily) (concurs : n.Concurs m) : n.InFamily := by
  intro id s told
  rw [concurs.roster]
  exact inFamily id s ((concurs.status id).symm.trans told)

/-- A status that moves within its family keeps it. -/
lemma InFamily.of_moves (inFamily : m.InFamily) (moves : m.Moves id t next)
    (known : m.status? id = some s) (same : s.family = t.family) : next.InFamily := by
  intro other u told
  rw [moves.status] at told
  rw [moves.roster]
  split at told
  · next eq =>
    cases told
    obtain ⟨start, starts, family⟩ := inFamily id s known
    exact ⟨start, eq ▸ starts, same ▸ family⟩
  · exact inFamily other u told

/-- A mark keeps the families. -/
lemma InFamily.mark (inFamily : m.InFamily) (id : InstanceId) (s : Status) :
    (m.mark id s).value.2.InFamily := by
  have made := marking m id s
  generalize (m.mark id s).value.1 = taken, (m.mark id s).value.2 = next at made
  cases made with
  | fails => exact inFamily
  | moves _ known legal moves =>
    exact inFamily.of_moves moves known (Status.family_eq_of_canMoveTo legal)
  | stays _ _ _ concurs => exact inFamily.of_concurs concurs

end ReplicaQuorum.ReplicaSet
