import ReplicaQuorum.Proofs.Except
import ReplicaQuorum.Proofs.Liveness.Absorb
import ReplicaQuorum.ReplicaSet.Content

/-!
# Strangers

Of whom an observer tells a status, and whom it lets be marked. Both questions refuse an instance
that is no member, with an error that says so, and a refusal leaves the record as it is. They differ
where the temporary primary is not a member, which no check of a roster rules out: it is asked for
like a member, and its status is recorded, but it cannot be marked unless it is registered to
replace a member.
-/

namespace ReplicaQuorum

variable {m : ReplicaSet} {id : InstanceId} {s : Status}

/-- Members start with a status, and so does whoever serves as temporary primary. -/
lemma Roster.exists_initialStatus?_iff {r : Roster} :
    (∃ start, r.initialStatus? id = some start) ↔ id ∈ r.members ∨ r.tempPrimary = some id := by
  rw [initialStatus?, mem_members]
  constructor
  · rintro ⟨start, starts⟩
    split_ifs at starts with primary temp secondary joining arbiter inactive
    · exact .inl (.inl primary)
    · exact .inr temp
    · exact .inl (.inr ⟨.secondary, secondary⟩)
    · exact .inl (.inr ⟨.joining, joining⟩)
    · exact .inl (.inr ⟨.arbiter, arbiter⟩)
    · exact .inl (.inr ⟨.inactive, inactive⟩)
  · intro known
    split_ifs with primary temp secondary joining arbiter inactive
    iterate 6 exact ⟨_, rfl⟩
    · -- no role is left
      rcases known with (eq | ⟨role, held⟩) | temp'
      · exact absurd eq primary
      · cases role <;> contradiction
      · exact absurd temp' temp

namespace ReplicaSet

/-- Asking fails with an unknown member only, and changes nothing then. -/
lemma eq_of_statusOf_eq_error {e : MembershipError} {next : ReplicaSet}
    (failed : (m.statusOf id).value = (.error e, next)) : e.kind = .unknownMember ∧ next = m := by
  cases known : m.status? id with
  | none =>
    rw [statusOf_of_eq_none known] at failed
    cases failed
    exact ⟨rfl, rfl⟩
  | some s =>
    rw [statusOf_of_eq_some known] at failed
    cases failed

/-- Marking fails with an unknown member only. -/
lemma kind_of_mark_eq_error {e : MembershipError} {next : ReplicaSet}
    (failed : (m.mark id s).value = (.error e, next)) : e.kind = .unknownMember := by
  have made := marking m id s
  rw [failed] at made
  cases made with
  | fails _ kind => exact kind

/-- A mark is answered exactly if the instance is in the replica set and a status is told of it. -/
lemma exists_mark_iff : (∃ taken, (m.mark id s).value.1 = .ok taken) ↔
    m.contains id ∧ ∃ current, m.status? id = some current := by
  have made := marking m id s
  generalize (m.mark id s).value.1 = taken, (m.mark id s).value.2 = next at made
  cases made with
  | fails e _ unknown =>
    refine iff_of_false nofun ?_
    rintro ⟨contained, current, known⟩
    rcases unknown with missing | roleless
    · exact absurd (contained.symm.trans missing) (by decide)
    · exact absurd (known.symm.trans roleless) nofun
  | moves contained known => exact iff_of_true ⟨_, rfl⟩ ⟨contained, _, known⟩
  | stays contained known => exact iff_of_true ⟨_, rfl⟩ ⟨contained, _, known⟩

/-- Members are asked for and marked without an error, and so is a temporary primary that is no
member, the one by everybody, the other only while it is registered to replace a member. Every other
instance is refused as unknown, and a refusal changes nothing. So the two agree on who is a member
exactly if the temporary primary is one. -/
theorem strangers_refused_iff (watched : m.Watched) :
    (∀ id, (∃ s, (m.statusOf id).value.1 = .ok s) ↔ id ∈ m.members ∨ m.tempPrimary = some id) ∧
    (∀ id next, (∃ taken, (m.mark id next).value.1 = .ok taken) ↔
      id ∈ m.members ∨ m.tempPrimary = some id ∧ m.secondaryCandidate = some id) ∧
    (∀ id e after, (m.statusOf id).value = (.error e, after) →
      e.kind = .unknownMember ∧ after = m) ∧
    (∀ id next e after, (m.mark id next).value = (.error e, after) →
      e.kind = .unknownMember ∧ after = m) ∧
    ((∀ id, ((∃ s, (m.statusOf id).value.1 = .ok s) ↔ id ∈ m.members) ∧
        ∀ next, (∃ e, (m.mark id next).value.1 = .error e) ↔
          ∃ e, (m.statusOf id).value.1 = .error e) ↔
      ∀ id : InstanceId, m.tempPrimary = some id → id ∈ m.members) := by
  have told : ∀ id, (∃ s, m.status? id = some s) ↔ id ∈ m.members ∨ m.tempPrimary = some id :=
    fun id => watched.inFamily.exists_status?_iff.trans Roster.exists_initialStatus?_iff
  have asked : ∀ id, (∃ s, (m.statusOf id).value.1 = .ok s) ↔
      id ∈ m.members ∨ m.tempPrimary = some id := by
    intro id
    simp only [statusOf_eq_ok_iff, told]
  have marked : ∀ id next, (∃ taken, (m.mark id next).value.1 = .ok taken) ↔
      id ∈ m.members ∨ m.tempPrimary = some id ∧ m.secondaryCandidate = some id := by
    intro id next
    rw [exists_mark_iff, told, Roster.contains_iff, ← or_and_left, and_comm (b := _ = some id)]
  refine ⟨asked, marked, fun id e after => eq_of_statusOf_eq_error, fun id next e after failed =>
    ⟨kind_of_mark_eq_error failed, eq_of_mark_eq_error failed⟩, ?_⟩
  simp only [exists_error_iff, asked, marked]
  constructor
  · intro agree id temp
    exact (agree id).1.1 (.inr temp)
  · intro member id
    have asks : id ∈ m.members ∨ m.tempPrimary = some id ↔ id ∈ m.members :=
      or_iff_left_of_imp (member id)
    have marks : id ∈ m.members ∨ m.tempPrimary = some id ∧ m.secondaryCandidate = some id ↔
        id ∈ m.members := or_iff_left_of_imp fun temp => member id temp.1
    exact ⟨asks, fun _ => not_congr (marks.trans asks.symm)⟩

/-- With a secondary as temporary primary and an instance registered to replace a member, every
member is asked for, and the registered instance is refused either way. -/
theorem strangers_refused_registered :
    ∃ start m : ReplicaSet, Content.decode "1,0,1,2,2:3,4,5,6,3,7" = .ok start ∧
      m = (start.mark 2 .secondaryDown).value.2 ∧ m.Watched ∧ m.contains 7 ∧
      (∀ id, (∃ s, (m.statusOf id).value.1 = .ok s) ↔ id ∈ m.members) ∧
      (m.mark 7 .secondary).value = (.error (.noRole 7 m), m) := by
  let start : ReplicaSet := .ofRoster
    { version := ⟨1, 0⟩, primary := 1, tempPrimary := some 2, secondaries := .ofList [2, 3],
      arbiters := .ofList [4], inactive := .ofList [5], joining := .ofList [6],
      primaryCandidate := some 3, secondaryCandidate := some 7 }
  let m : ReplicaSet := (start.mark 2 .secondaryDown).value.2
  have watched : m.Watched := .mark 2 .secondaryDown (.fresh rfl)
  obtain ⟨-, -, -, refused, agree⟩ := strangers_refused_iff watched
  have member : ∀ id : InstanceId, m.tempPrimary = some id → id ∈ m.members := by
    rintro id ⟨⟩
    decide
  have failed : (m.mark 7 .secondary).value.1 = .error (.noRole 7 m) := by rfl
  have kept := (refused 7 .secondary _ _ (Prod.ext failed rfl)).2
  exact ⟨start, m, by rfl, rfl, watched, by decide, fun id => (agree.2 member id).1,
    Prod.ext failed kept⟩

/-- A temporary primary that is no member has a status, which is recorded, although it holds no role
and nobody may mark it. -/
theorem stranger_answers_as_tempPrimary :
    ∃ m : ReplicaSet, Content.decode "1,0,1,9,2:3,,,,-1,-1" = .ok m ∧ m.Watched ∧
      (9 : InstanceId) ∉ m.members ∧ (m.statusOf 9).value.1 = .ok .tempPrimary ∧
      (m.statusOf 9).value.2.statuses.get? 9 = some .tempPrimary ∧
      (m.mark 9 .secondaryDown).value.1 = .error (.cannotMark 9 .secondaryDown m) := by
  let m : ReplicaSet := .ofRoster
    { version := ⟨1, 0⟩, primary := 1, tempPrimary := some 9, secondaries := .ofList [2, 3] }
  exact ⟨m, by rfl, .fresh rfl, by decide, by rfl, by rfl, by rfl⟩

end ReplicaSet

end ReplicaQuorum
