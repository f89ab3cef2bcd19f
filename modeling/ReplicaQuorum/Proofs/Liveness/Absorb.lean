import Mathlib.Tactic.SplitIfs
import ReplicaQuorum.Proofs.Liveness.Record
import ReplicaQuorum.Proofs.ReplicaSet.Compare
import ReplicaQuorum.Proofs.Roster.WellFormed

/-!
# Absorbing another observer's record

An observer that absorbs the record of another one of the same roster tells the join of what both
told of each member, but for inactive members, of which it tells what it did. The other observer
tells what it did of everybody. As both keep to the families of the members' roles, there is no
error on the way.
-/

namespace ReplicaQuorum.ReplicaSet

variable {m n other : ReplicaSet} {id : InstanceId} {ids : List InstanceId} {s t : Status}
  {f : Family} {request : RequestId}

/-! ## Observed members -/

/-- The observed members are those that are not inactive. -/
lemma mem_observedMembers : id ∈ m.observedMembers ↔ id ∈ m.members ∧ id ∉ m.inactive := by
  simp [observedMembers]

/-- No member is observed twice. -/
lemma nodup_observedMembers (m : ReplicaSet) : m.observedMembers.Nodup :=
  (IdSet.nodup_toList _).filter _

/-- Replica sets of one roster observe the same members. -/
lemma observedMembers_congr (same : m.toRoster = n.toRoster) :
    m.observedMembers = n.observedMembers := by
  rw [observedMembers, observedMembers, same]

/-- A member that is not inactive starts with a status that belongs to a family. -/
lemma exists_family_of_observed (mem : id ∈ m.observedMembers) :
    ∃ start f, m.initialStatus? id = some start ∧ start.family = some f := by
  obtain ⟨mem, active⟩ := mem_observedMembers.1 mem
  rw [Roster.initialStatus?]
  split_ifs with primary temp secondary joining arbiter
  · exact ⟨_, _, rfl, rfl⟩
  · exact ⟨_, _, rfl, rfl⟩
  · exact ⟨_, _, rfl, rfl⟩
  · exact ⟨_, _, rfl, rfl⟩
  · exact ⟨_, _, rfl, rfl⟩
  · -- no role is left
    rcases Roster.mem_members.1 mem with eq | ⟨role, held⟩
    · exact absurd eq primary
    · cases role <;> contradiction

/-- Two observers of one roster tell statuses of one family of each observed member. -/
lemma exists_statuses_of_observed (own : m.InFamily) (theirs : other.InFamily)
    (same : m.toRoster = other.toRoster) (mem : id ∈ m.observedMembers) :
    ∃ s t f, m.status? id = some s ∧ other.status? id = some t ∧ s.family = some f ∧
      t.family = some f := by
  obtain ⟨start, f, starts, family⟩ := exists_family_of_observed mem
  obtain ⟨s, told, familyOwn⟩ := own.exists_status starts
  obtain ⟨t, seen, familyTheirs⟩ := theirs.exists_status (same ▸ starts)
  exact ⟨s, t, f, told, seen, familyOwn.trans family, familyTheirs.trans family⟩

/-! ## One member -/

/-- What a member that is not inactive is asked for is recorded without a notice. -/
lemma statusOf_of_family (known : m.status? id = some s) (hs : s.family = some f) :
    m.statusOf id = ⟨(.ok s, m.record id s), []⟩ := by
  have active : m.status? id ≠ some .inactiveSecondary := by
    rw [known]
    rintro ⟨⟩
    cases hs
  rw [← statusOf_of_eq_some known, ← notices_statusOf active]

/-- The notices of what was joined of one member: there is one only if the join is news. -/
def mergeNotices (request : RequestId) (id : InstanceId) (s t : Status) : List Notice :=
  if s.merge t = s then [] else [statusMerged request id s t (s.merge t)]

/-- All that is noticed of a join is that statuses were merged. -/
lemma event_of_mem_mergeNotices {notice : Notice} (given : notice ∈ mergeNotices request id s t) :
    notice.event = Event.statusMerged.name := by
  unfold mergeNotices at given
  split at given
  · cases given
  · cases List.mem_singleton.1 given
    rfl

/-- The join of what both tell is recorded. -/
lemma absorbStatus_eq (request : RequestId) (contained : m.contains id)
    (known : m.status? id = some s) (seen : other.status? id = some t) (hs : s.family = some f)
    (ht : t.family = some f) :
    absorbStatus request id m other
      = ⟨(.ok (), m.record id (s.merge t), other.record id t),
          mergeNotices request id s t⟩ := by
  simp only [absorbStatus, statusOf_of_family known hs, statusOf_of_family seen ht, mergeNotices]
  by_cases same : s.merge t = s
  · rw [if_pos same, if_pos same, same]
    rfl
  · have told : (m.record id s).status? id = some s := by
      rw [(moves_record m id s).status, if_pos rfl]
    rw [if_neg same, if_neg same,
      mark_of_known (m := m.record id s) contained told, if_pos (Status.canMoveTo_merge hs ht same),
      statusOf_of_family told hs, record_record]
    rfl

/-! ## All members -/

/-- What two observers have recorded once the first one absorbed what the second one tells of some
members: the first one the join of what both tell, the second one what it tells, and of nobody else
anything new. -/
structure Exchanges (m other : ReplicaSet) (ids : List InstanceId) (next after : ReplicaSet) :
    Prop where
  own : next = { m with statuses := next.statuses }
  theirs : after = { other with statuses := after.statuses }
  recorded : ∀ id ∈ ids, ∃ s t, m.status? id = some s ∧ other.status? id = some t ∧
    next.statuses.get? id = some (s.merge t) ∧ after.statuses.get? id = some t
  unrecorded : ∀ id, id ∉ ids → next.statuses.get? id = m.statuses.get? id ∧
    after.statuses.get? id = other.statuses.get? id

namespace Exchanges

variable {next after : ReplicaSet}

/-- Over nobody nothing is exchanged. -/
lemma nil (m other : ReplicaSet) : m.Exchanges other [] m other :=
  ⟨rfl, rfl, nofun, fun _ _ => ⟨rfl, rfl⟩⟩

/-- The exchange about the first member and the one about the others add up. -/
lemma cons (known : m.status? id = some s) (seen : other.status? id = some t) (fresh : id ∉ ids)
    (exchanges : (m.record id (s.merge t)).Exchanges (other.record id t) ids next after) :
    m.Exchanges other (id :: ids) next after where
  own := exchanges.own
  theirs := exchanges.theirs
  recorded := by
    intro x mem
    rcases List.mem_cons.1 mem with rfl | mem
    · obtain ⟨kept, kept'⟩ := exchanges.unrecorded x fresh
      exact ⟨s, t, known, seen, kept.trans IdMap.get?_insert_self,
        kept'.trans IdMap.get?_insert_self⟩
    · have ne : x ≠ id := fun eq => fresh (eq ▸ mem)
      obtain ⟨u, v, told, told', recorded⟩ := exchanges.recorded x mem
      rw [(moves_record m id (s.merge t)).status, if_neg ne] at told
      rw [(moves_record other id t).status, if_neg ne] at told'
      exact ⟨u, v, told, told', recorded⟩
  unrecorded := by
    intro x notMem
    rw [List.mem_cons, not_or] at notMem
    obtain ⟨ne, notMem⟩ := notMem
    obtain ⟨kept, kept'⟩ := exchanges.unrecorded x notMem
    rw [record, IdMap.get?_insert, if_neg ne] at kept kept'
    exact ⟨kept, kept'⟩

/-- An exchange keeps the roster. -/
lemma roster (exchanges : m.Exchanges other ids next after) : next.toRoster = m.toRoster := by
  rw [exchanges.own]

/-- Of a member that is told of, the join of both statuses is told. -/
lemma joined (exchanges : m.Exchanges other ids next after) (mem : id ∈ ids)
    (known : m.status? id = some s) (seen : other.status? id = some t) :
    next.status? id = some (s.merge t) := by
  obtain ⟨u, v, told, told', recorded, -⟩ := exchanges.recorded id mem
  cases known.symm.trans told
  cases seen.symm.trans told'
  exact status?_of_recorded recorded

/-- Of nobody else anything else is told. -/
lemma kept (exchanges : m.Exchanges other ids next after) (notMem : id ∉ ids) :
    next.status? id = m.status? id := by
  rw [status?, (exchanges.unrecorded id notMem).1, exchanges.roster]
  rfl

/-- Who is absorbed from tells what it did. -/
lemma concurs (exchanges : m.Exchanges other ids next after) : after.Concurs other where
  roster := by rw [exchanges.theirs]
  status id := by
    by_cases mem : id ∈ ids
    · obtain ⟨s, t, -, seen, -, recorded⟩ := exchanges.recorded id mem
      exact (status?_of_recorded recorded).trans seen.symm
    · rw [status?, (exchanges.unrecorded id mem).2, exchanges.theirs]
      rfl

end Exchanges

/-- On the way through the members there is no error, and no notice but of statuses that change. -/
lemma absorbStatuses_eq (nodup : ids.Nodup) (own : m.InFamily) (theirs : other.InFamily)
    (same : m.toRoster = other.toRoster) (observed : ∀ id ∈ ids, id ∈ m.observedMembers) :
    ∃ next after notices, absorbStatuses request ids m other = ⟨(.ok (), next, after), notices⟩ ∧
      m.Exchanges other ids next after ∧ next.InFamily ∧
      ∀ notice ∈ notices, notice.event = Event.statusMerged.name := by
  induction ids generalizing m other with
  | nil => exact ⟨m, other, [], rfl, .nil m other, own, nofun⟩
  | cons id ids ih =>
    obtain ⟨fresh, nodup⟩ := List.nodup_cons.1 nodup
    obtain ⟨mem, observed⟩ := List.forall_mem_cons.1 observed
    obtain ⟨s, t, f, known, seen, hs, ht⟩ := exists_statuses_of_observed own theirs same mem
    have contained := Roster.contains_of_mem_members (mem_observedMembers.1 mem).1
    have kept : s.family = (s.merge t).family :=
      Status.family_eq_of_le ((Status.isGreatest_merge hs ht).2 (.inl rfl))
    obtain ⟨next, after, notices, rest, exchanges, inFamily, merged⟩ :=
      ih nodup (own.of_moves (moves_record m id (s.merge t)) known kept)
        (theirs.of_concurs (concurs_record seen)) same observed
    refine ⟨next, after, mergeNotices request id s t ++ notices, ?_,
      .cons known seen fresh exchanges, inFamily, fun notice given => ?_⟩
    · simp only [absorbStatuses, absorbStatus_eq request contained known seen hs ht, rest]
    · exact (List.mem_append.1 given).elim event_of_mem_mergeNotices (merged notice)

/-- Absorbing the record of an observer of the same roster joins what both tell. -/
lemma absorb_eq (own : m.InFamily) (theirs : other.InFamily) (same : m.toRoster = other.toRoster)
    (request : RequestId) :
    ∃ next after notices, m.absorb request other = ⟨(.ok (), next, after), notices⟩ ∧
      m.Exchanges other m.observedMembers next after ∧ next.InFamily ∧
      ∀ notice ∈ notices, notice.event = Event.statusMerged.name := by
  rw [absorb, compareTo_eq_eq_iff.2 same, ← observedMembers_congr same]
  exact absorbStatuses_eq m.nodup_observedMembers own theirs same fun _ mem => mem

/-- The record of another roster is not absorbed, which is an error and changes neither side. -/
lemma absorb_of_ne (ne : m.toRoster ≠ other.toRoster) (request : RequestId) :
    ∃ e, m.absorb request other = ⟨(.error e, m, other), []⟩ := by
  rw [absorb]
  cases compared : m.compareTo other with
  | error e => exact ⟨e, rfl⟩
  | ok order =>
    cases order with
    | eq => exact absurd (compareTo_eq_eq_iff.1 compared) ne
    | lt => exact ⟨_, rfl⟩
    | gt => exact ⟨_, rfl⟩

/-! ## Runs of an observer -/

/-- A replica set whose statuses were recorded by asking, by marking, and by absorbing the records
of other observers and giving them the own one. -/
inductive Watched : ReplicaSet → Prop where
  | fresh {m : ReplicaSet} (empty : m.statuses = ∅) : Watched m
  | ask {m : ReplicaSet} (id : InstanceId) : Watched m → Watched (m.statusOf id).value.2
  | mark {m : ReplicaSet} (id : InstanceId) (s : Status) :
    Watched m → Watched (m.mark id s).value.2
  | absorb {m other : ReplicaSet} (request : RequestId) :
    Watched m → Watched other → Watched (m.absorb request other).value.2.1
  | give {m other : ReplicaSet} (request : RequestId) :
    Watched m → Watched other → Watched (m.absorb request other).value.2.2

/-- No run leads out of the families of the members' roles. -/
theorem Watched.inFamily (watched : m.Watched) : m.InFamily := by
  induction watched with
  | fresh empty => exact inFamily_of_empty empty
  | @ask m id _ ih => exact ih.of_concurs (concurs_statusOf m id)
  | mark id s _ ih => exact ih.mark id s
  | @absorb m other request _ _ own theirs =>
    by_cases same : m.toRoster = other.toRoster
    · obtain ⟨next, after, notices, eq, -, inFamily, -⟩ := absorb_eq own theirs same request
      rw [eq]
      exact inFamily
    · obtain ⟨e, eq⟩ := absorb_of_ne same request
      rw [eq]
      exact own
  | @give m other request _ _ own theirs =>
    by_cases same : m.toRoster = other.toRoster
    · obtain ⟨next, after, notices, eq, exchanges, -⟩ := absorb_eq own theirs same request
      rw [eq]
      exact theirs.of_concurs exchanges.concurs
    · obtain ⟨e, eq⟩ := absorb_of_ne same request
      rw [eq]
      exact theirs

end ReplicaQuorum.ReplicaSet
