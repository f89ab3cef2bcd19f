import Mathlib.Logic.Relation
import ReplicaQuorum.Proofs.Liveness.Absorb
import ReplicaQuorum.Proofs.Status.Degrade

/-!
# Recorded statuses only degrade

An observer's record only grows, and what it tells of a member only degrades, whichever way it asks,
marks, and exchanges records with other observers of its roster. So a status that was recorded once
has a successor in every later record, in the family that the member's role starts with, with every
axis down that was down before; a member that is fully down or inactive stays as it is recorded.
-/

namespace ReplicaQuorum.ReplicaSet

variable {m n k other next : ReplicaSet} {id : InstanceId} {ids : List InstanceId} {s t : Status}
  {request : RequestId}

/-! ## Growing records -/

/-- Whatever member has a status recorded keeps having one. -/
def Grows (m n : ReplicaSet) : Prop :=
  ∀ id, (m.statuses.get? id).isSome → (n.statuses.get? id).isSome

/-- A record has all that it has. -/
lemma Grows.refl (m : ReplicaSet) : m.Grows m :=
  fun _ recorded => recorded

/-- What has all that was recorded before has all that was recorded before that. -/
lemma Grows.trans (mn : m.Grows n) (nk : n.Grows k) : m.Grows k :=
  fun id recorded => nk id (mn id recorded)

/-- Recording a status takes none away. -/
lemma grows_record (m : ReplicaSet) (id : InstanceId) (s : Status) : m.Grows (m.record id s) := by
  intro x recorded
  rw [record, IdMap.get?_insert]
  split
  · rfl
  · exact recorded

/-- Asking for a status takes none away. -/
lemma grows_statusOf (m : ReplicaSet) (id : InstanceId) : m.Grows (m.statusOf id).value.2 := by
  rw [statusOf]
  cases m.statuses.get? id with
  | some s => exact .refl m
  | none =>
    cases m.initialStatus? id with
    | none => exact .refl m
    | some s => exact grows_record m id s

/-- Marking a member takes no status away. -/
lemma grows_mark (m : ReplicaSet) (id : InstanceId) (s : Status) :
    m.Grows (m.mark id s).value.2 := by
  have grows := grows_statusOf m id
  rw [mark]
  cases m.contains id with
  | false => exact .refl m
  | true =>
    generalize m.statusOf id = known at grows ⊢
    obtain ⟨⟨answer, asked⟩, notices⟩ := known
    cases answer with
    | error e => exact grows
    | ok current =>
      simp only
      cases current.canMoveTo s with
      | false => exact grows
      | true => exact grows.trans (grows_record asked id s)

/-- Taking over the status of one member adds to both records. -/
lemma grows_absorbStatus (request : RequestId) (id : InstanceId) (m other : ReplicaSet) :
    m.Grows (absorbStatus request id m other).value.2.1 ∧
      other.Grows (absorbStatus request id m other).value.2.2 := by
  have theirs := grows_statusOf other id
  have mine := grows_statusOf m id
  simp only [absorbStatus]
  generalize other.statusOf id = asking at theirs ⊢
  obtain ⟨⟨seen, after⟩, notices⟩ := asking
  cases seen with
  | error e => exact ⟨.refl m, theirs⟩
  | ok t =>
    generalize m.statusOf id = known at mine ⊢
    obtain ⟨⟨current, asked⟩, notices'⟩ := known
    cases current with
    | error e => exact ⟨mine, theirs⟩
    | ok s =>
      simp only
      split
      · exact ⟨mine, theirs⟩
      · exact ⟨mine.trans (grows_mark asked id (s.merge t)), theirs⟩

/-- Absorbing a record takes no status away on either side. -/
lemma grows_absorbStatuses (request : RequestId) (ids : List InstanceId) (m other : ReplicaSet) :
    m.Grows (absorbStatuses request ids m other).value.2.1 ∧
      other.Grows (absorbStatuses request ids m other).value.2.2 := by
  induction ids generalizing m other with
  | nil => exact ⟨.refl m, .refl other⟩
  | cons id ids ih =>
    have first := grows_absorbStatus request id m other
    simp only [absorbStatuses]
    generalize absorbStatus request id m other = result at first ⊢
    obtain ⟨⟨taken, next, after⟩, notices⟩ := result
    cases taken with
    | error e => exact first
    | ok =>
      obtain ⟨own, theirs⟩ := ih next after
      exact ⟨first.1.trans own, first.2.trans theirs⟩

/-- An exchange of records adds to both of them. -/
lemma grows_absorb (request : RequestId) (m other : ReplicaSet) :
    m.Grows (m.absorb request other).value.2.1 ∧
      other.Grows (m.absorb request other).value.2.2 := by
  rw [absorb]
  cases m.compareTo other with
  | error e => exact ⟨.refl m, .refl other⟩
  | ok order =>
    cases order with
    | eq => exact grows_absorbStatuses request other.observedMembers m other
    | lt => exact ⟨.refl m, .refl other⟩
    | gt => exact ⟨.refl m, .refl other⟩

/-! ## Degrading records -/

/-- The record `n` is what can become of `m`: of the same roster it has all that was recorded, and
what it tells of the members has degraded. -/
structure Degrades (m n : ReplicaSet) : Prop where
  roster : n.toRoster = m.toRoster
  grows : m.Grows n
  status : ∀ id s, m.status? id = some s → ∃ t, n.status? id = some t ∧ s.Degrades t

/-- A record can be what has become of it. -/
lemma Degrades.refl (m : ReplicaSet) : m.Degrades m :=
  ⟨rfl, .refl m, fun _ s told => ⟨s, told, .refl s⟩⟩

/-- What has become of what has become of a record has become of it. -/
lemma Degrades.trans (mn : m.Degrades n) (nk : n.Degrades k) : m.Degrades k where
  roster := nk.roster.trans mn.roster
  grows := mn.grows.trans nk.grows
  status := by
    intro id s told
    obtain ⟨t, told', degrades⟩ := mn.status id s told
    obtain ⟨u, told'', degrades'⟩ := nk.status id t told'
    exact ⟨u, told'', degrades.trans degrades'⟩

/-- Nothing has degraded where the same is told. -/
lemma Degrades.of_concurs (concurs : n.Concurs m) (grows : m.Grows n) : m.Degrades n :=
  ⟨concurs.roster, grows, fun id s told => ⟨s, (concurs.status id).trans told, .refl s⟩⟩

/-- One member has degraded where only its status moved down. -/
lemma Degrades.of_moves (moves : m.Moves id t n) (known : m.status? id = some s)
    (degrades : s.Degrades t) (grows : m.Grows n) : m.Degrades n where
  roster := moves.roster
  grows := grows
  status := by
    intro x u told
    rw [moves.status]
    split
    · next eq =>
      subst eq
      cases known.symm.trans told
      exact ⟨t, rfl, degrades⟩
    · exact ⟨u, told, .refl u⟩

/-- What an exchange with an observer of the same roster joins has degraded. -/
lemma Degrades.of_exchanges (own : m.InFamily) (theirs : other.InFamily)
    (same : m.toRoster = other.toRoster)
    (exchanges : m.Exchanges other m.observedMembers n next) (grows : m.Grows n) :
    m.Degrades n where
  roster := exchanges.roster
  grows := grows
  status := by
    intro id u told
    by_cases mem : id ∈ m.observedMembers
    · obtain ⟨s, t, f, known, seen, hs, ht⟩ := exists_statuses_of_observed own theirs same mem
      cases known.symm.trans told
      exact ⟨u.merge t, exchanges.joined mem known seen, Status.degrades_merge hs ht⟩
    · exact ⟨u, (exchanges.kept mem).trans told, .refl u⟩

/-! ## Operations of an observer -/

/-- Asking for a status degrades nobody. -/
lemma degrades_statusOf (m : ReplicaSet) (id : InstanceId) : m.Degrades (m.statusOf id).value.2 :=
  .of_concurs (concurs_statusOf m id) (grows_statusOf m id)

/-- A mark can only degrade. -/
lemma degrades_mark (m : ReplicaSet) (id : InstanceId) (s : Status) :
    m.Degrades (m.mark id s).value.2 := by
  have made := marking m id s
  have grows := grows_mark m id s
  generalize (m.mark id s).value.1 = taken, (m.mark id s).value.2 = next at made grows
  cases made with
  | fails => exact .refl m
  | moves _ known legal moves =>
    exact .of_moves moves known (Status.degrades_of_canMoveTo legal) grows
  | stays _ _ _ concurs => exact .of_concurs concurs grows

/-- Both records of an exchange degrade. -/
lemma degrades_absorb (own : m.InFamily) (theirs : other.InFamily) (request : RequestId) :
    m.Degrades (m.absorb request other).value.2.1 ∧
      other.Degrades (m.absorb request other).value.2.2 := by
  obtain ⟨growsOwn, growsTheirs⟩ := grows_absorb request m other
  by_cases same : m.toRoster = other.toRoster
  · obtain ⟨next, after, notices, eq, exchanges, -⟩ := absorb_eq own theirs same request
    rw [eq] at growsOwn growsTheirs ⊢
    exact ⟨.of_exchanges own theirs same exchanges growsOwn,
      .of_concurs exchanges.concurs growsTheirs⟩
  · obtain ⟨e, eq⟩ := absorb_of_ne same request
    rw [eq]
    exact ⟨.refl m, .refl other⟩

/-- One operation on an observer's record: it asks or marks, takes over what another observer has
recorded, or gives that one its own record. -/
inductive Turn : ReplicaSet → ReplicaSet → Prop where
  | ask (m : ReplicaSet) (id : InstanceId) : Turn m (m.statusOf id).value.2
  | mark (m : ReplicaSet) (id : InstanceId) (s : Status) : Turn m (m.mark id s).value.2
  | absorb (m : ReplicaSet) (request : RequestId) {other : ReplicaSet} (watched : other.Watched) :
    Turn m (m.absorb request other).value.2.1
  | give (m : ReplicaSet) (request : RequestId) {other : ReplicaSet} (watched : other.Watched) :
    Turn m (other.absorb request m).value.2.2

/-- Every operation keeps a record that was come by in these ways. -/
lemma Watched.turn (watched : m.Watched) (turn : m.Turn n) : n.Watched := by
  cases turn with
  | ask id => exact .ask id watched
  | mark id s => exact .mark id s watched
  | absorb request theirs => exact .absorb request watched theirs
  | give request theirs => exact .give request theirs watched

/-- Every operation can only degrade what is recorded. -/
lemma Watched.degrades_of_turn (watched : m.Watched) (turn : m.Turn n) : m.Degrades n := by
  cases turn with
  | ask id => exact degrades_statusOf m id
  | mark id s => exact degrades_mark m id s
  | absorb request theirs => exact (degrades_absorb watched.inFamily theirs.inFamily request).1
  | give request theirs => exact (degrades_absorb theirs.inFamily watched.inFamily request).2

/-- Over any run of operations, what is recorded only degrades. -/
lemma Watched.run (watched : m.Watched) (run : Relation.ReflTransGen Turn m n) :
    n.Watched ∧ m.Degrades n := by
  induction run with
  | refl => exact ⟨watched, .refl m⟩
  | tail _ turn ih =>
    obtain ⟨watched, degrades⟩ := ih
    exact ⟨watched.turn turn, degrades.trans (watched.degrades_of_turn turn)⟩

/-- A status that is recorded for a member has a successor in the record after any operations. It
keeps to the family that the member's role starts with, no axis comes up again, and a status that is
fully down or inactive never changes. -/
theorem recorded_status_degrades (watched : m.Watched) (run : Relation.ReflTransGen Turn m n)
    (recorded : m.statuses.get? id = some s) :
    ∃ t, n.statuses.get? id = some t ∧
      (∃ start, n.initialStatus? id = some start ∧ t.family = start.family) ∧
      (s.readDown → t.readDown) ∧ (s.writeDown → t.writeDown) ∧ (s.isDown → t = s) ∧
      (s = .inactiveSecondary → t = .inactiveSecondary) := by
  obtain ⟨watched', degrades⟩ := watched.run run
  obtain ⟨t, recorded'⟩ := Option.isSome_iff_exists.1 (degrades.grows id (by simp [recorded]))
  obtain ⟨u, told, became⟩ := degrades.status id s (status?_of_recorded recorded)
  -- what is recorded of the member is what is told of it
  cases (status?_of_recorded recorded').symm.trans told
  refine ⟨t, recorded', watched'.inFamily id t told, became.readDown, became.writeDown,
    became.final, ?_⟩
  rintro rfl
  exact became.final rfl

/-- A secondary that serves no reads is neither marked as live again nor better off for meeting an
observer that saw it down. -/
theorem recorded_status_degrades_down :
    ∃ m n : ReplicaSet, m.Watched ∧ Relation.ReflTransGen Turn m n ∧
      m.statuses.get? 2 = some .secondaryReadDown ∧ n.statuses.get? 2 = some .secondaryDown ∧
      (∃ start, n.initialStatus? 2 = some start ∧ Status.secondaryDown.family = start.family) ∧
      Status.secondaryDown.readDown := by
  let start : ReplicaSet := .ofRoster
    { version := ⟨1, 0⟩, primary := 1, secondaries := .ofList [2, 3], inactive := .ofList [4] }
  let m : ReplicaSet := (start.mark 2 .secondaryReadDown).value.2
  let other : ReplicaSet := (start.mark 2 .secondaryDown).value.2
  let marked : ReplicaSet := (m.mark 2 .secondary).value.2
  let joined : ReplicaSet := (marked.absorb .nil other).value.2.1
  have fresh : start.Watched := .fresh rfl
  have watched : m.Watched := .mark 2 .secondaryReadDown fresh
  have theirs : other.Watched := .mark 2 .secondaryDown fresh
  have run : Relation.ReflTransGen Turn m (joined.mark 2 .tempPrimary).value.2 :=
    .tail (.tail (.tail .refl (.mark m 2 .secondary)) (.absorb marked .nil theirs))
      (.mark joined 2 .tempPrimary)
  have recorded : m.statuses.get? 2 = some .secondaryReadDown := by rfl
  have recorded' : (joined.mark 2 .tempPrimary).value.2.statuses.get? 2 = some .secondaryDown := by
    decide +kernel
  obtain ⟨t, kept, family, readDown, -⟩ := recorded_status_degrades watched run recorded
  cases recorded'.symm.trans kept
  exact ⟨m, _, watched, run, recorded, recorded', family, readDown rfl⟩

end ReplicaQuorum.ReplicaSet
