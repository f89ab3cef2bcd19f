import ReplicaQuorum.Proofs.Liveness.Absorb
import ReplicaQuorum.ReplicaSet.Content

/-!
# Exchanged records

What an exchange leaves in the records of two observers. It succeeds exactly between observers of
one roster, and then it is complete: no lookup fails half way, and no status that was joined is
turned down when it is recorded. The observer that absorbs records the join for each member that is
not inactive; the other one gains nothing but what the roles of members start with.
-/

namespace ReplicaQuorum.ReplicaSet

variable {m other next after : ReplicaSet} {id : InstanceId} {ids : List InstanceId}

/-- Where something new is recorded by the observer that is absorbed from, it is the status that the
member's role starts with. -/
lemma Exchanges.gained (exchanges : m.Exchanges other ids next after)
    (new : after.statuses.get? id ≠ other.statuses.get? id) :
    other.statuses.get? id = none ∧ after.statuses.get? id = other.initialStatus? id := by
  by_cases mem : id ∈ ids
  · obtain ⟨s, t, -, seen, -, recorded⟩ := exchanges.recorded id mem
    cases known : other.statuses.get? id with
    | some u =>
      cases (status?_of_recorded known).symm.trans seen
      exact absurd (recorded.trans known.symm) new
    | none => exact ⟨rfl, recorded.trans (seen.symm.trans (status?_of_unrecorded known))⟩
  · exact absurd (exchanges.unrecorded id mem).2 new

/-- Absorbing the record of another observer succeeds exactly if that one observes the same roster.
Then the join of what both told is recorded for each member that is not inactive, as a legal move
that is not refused; the entries of inactive members stay, and the other observer's record gains
nothing but statuses that roles start with. An exchange that fails changes neither record. -/
theorem exchange_records_joins (own : m.Watched) (theirs : other.Watched) (request : RequestId) :
    ∃ taken next after notices, m.absorb request other = ⟨(taken, next, after), notices⟩ ∧
      (taken = .ok () ↔ m.toRoster = other.toRoster) ∧
      (∀ e, taken = .error e → next = m ∧ after = other) ∧
      (taken = .ok () →
        next = { m with statuses := next.statuses } ∧
        after = { other with statuses := after.statuses } ∧
        (∀ id : InstanceId, id ∈ m.members → id ∉ m.inactive →
          ∃ s t, m.status? id = some s ∧ other.status? id = some t ∧
            next.statuses.get? id = some (s.merge t) ∧ (s.merge t ≠ s → s.canMoveTo (s.merge t))) ∧
        (∀ id : InstanceId, id ∈ m.inactive → next.statuses.get? id = m.statuses.get? id) ∧
        (∀ id, after.statuses.get? id ≠ other.statuses.get? id →
          other.statuses.get? id = none ∧ after.statuses.get? id = other.initialStatus? id) ∧
        ∀ notice ∈ notices, notice.event ≠ Event.statusMoveRejected.name) := by
  by_cases same : m.toRoster = other.toRoster
  · obtain ⟨next, after, notices, eq, exchanges, -, merged⟩ :=
      absorb_eq own.inFamily theirs.inFamily same request
    refine ⟨_, next, after, notices, eq, iff_of_true rfl same, fun _ => nofun,
      fun _ => ⟨exchanges.own, exchanges.theirs, ?_, ?_, fun id new => exchanges.gained new, ?_⟩⟩
    · intro id mem active
      have observed := mem_observedMembers.2 ⟨mem, active⟩
      obtain ⟨s, t, f, known, seen, hs, ht⟩ :=
        exists_statuses_of_observed own.inFamily theirs.inFamily same observed
      obtain ⟨u, v, told, told', recorded, -⟩ := exchanges.recorded id observed
      cases known.symm.trans told
      cases seen.symm.trans told'
      exact ⟨s, t, known, seen, recorded, Status.canMoveTo_merge hs ht⟩
    · intro id inactive
      exact (exchanges.unrecorded id fun mem => (mem_observedMembers.1 mem).2 inactive).1
    · intro notice given
      rw [merged notice given]
      decide
  · obtain ⟨e, eq⟩ := absorb_of_ne same request
    exact ⟨_, m, other, [], eq, iff_of_false nofun same, fun _ _ => ⟨rfl, rfl⟩, nofun⟩

/-- One observer saw that a secondary serves no reads and asked about the inactive member, the other
one saw that the secondary is down; neither of them has a record of the other secondary. -/
theorem exchange_records_joins_down :
    ∃ (start m other next after : ReplicaSet) (notices : List Notice),
      Content.decode "1,0,1,-1,2:3,,4,,-1,-1" = .ok start ∧
      m = ((start.mark 2 .secondaryReadDown).value.2.statusOf 4).value.2 ∧
      other = (start.mark 2 .secondaryDown).value.2 ∧ m.Watched ∧ other.Watched ∧
      m.absorb .nil other = ⟨(.ok (), next, after), notices⟩ ∧
      next.statuses.get? 2 = some .secondaryDown ∧ next.statuses.get? 3 = some .secondary ∧
      next.statuses.get? 4 = some .inactiveSecondary := by
  let start : ReplicaSet := .ofRoster
    { version := ⟨1, 0⟩, primary := 1, secondaries := .ofList [2, 3], inactive := .ofList [4] }
  let m : ReplicaSet := ((start.mark 2 .secondaryReadDown).value.2.statusOf 4).value.2
  let other : ReplicaSet := (start.mark 2 .secondaryDown).value.2
  have fresh : start.Watched := .fresh rfl
  have own : m.Watched := .ask 4 (.mark 2 .secondaryReadDown fresh)
  have theirs : other.Watched := .mark 2 .secondaryDown fresh
  have told : m.status? 2 = some .secondaryReadDown ∧ m.status? 3 = some .secondary := by decide
  have seen : other.status? 2 = some .secondaryDown ∧ other.status? 3 = some .secondary := by decide
  have inactive : m.statuses.get? 4 = some .inactiveSecondary := by rfl
  obtain ⟨taken, next, after, notices, eq, succeeds, -, joins⟩ :=
    exchange_records_joins own theirs .nil
  obtain rfl := succeeds.2 rfl
  obtain ⟨-, -, joined, kept, -⟩ := joins rfl
  obtain ⟨s, t, known, known', second, -⟩ := joined 2 (by decide) (by decide)
  cases told.1.symm.trans known
  cases seen.1.symm.trans known'
  obtain ⟨s, t, known, known', third, -⟩ := joined 3 (by decide) (by decide)
  cases told.2.symm.trans known
  cases seen.2.symm.trans known'
  exact ⟨start, m, other, next, after, notices, by rfl, rfl, rfl, own, theirs, eq, second, third,
    (kept 4 (by decide)).trans inactive⟩

end ReplicaQuorum.ReplicaSet
