import Mathlib.Data.List.Induction
import Mathlib.Data.List.Nodup
import ReplicaQuorum.Proofs.Form.Trim

/-!
# Attendance

Who takes part in a round after any calls on it. A call lets one participant join, who is up and
whose identity is absent, or drops those who only confirm a read, or leaves everybody in place.
Therefore nobody who takes part is down and no two share an identity, each bears the notes of the
addition that brought the identity in since it was last absent, and what the round answers about
roles and readers is told by who joined and stayed.
-/

namespace ReplicaQuorum

namespace Round

/-- A call on a round. -/
inductive Call where
  | add (p : Participant)
  | dropChecks
  /-- A look at the members alive during a write. -/
  | progressWrite (f : Form) (v : VolumeType) (primary secondaries joining : UInt32)
  /-- A look at the members alive during a read. -/
  | progressRead (f : Form) (v : VolumeType) (primary secondaries joining arbiters : UInt32)

namespace Call

/-- The round after a call, unless the call adds up more than fits a word. -/
def outcome (r : Round) : Call → Except Overflow Round
  | add p => .ok (r.add p)
  | dropChecks => .ok r.dropChecks
  | progressWrite f v primary secondaries joining =>
    (f.progressWrite v primary secondaries joining r).value
  | progressRead f v primary secondaries joining arbiters =>
    (f.progressRead v primary secondaries joining arbiters r).value

/-- What a call makes of a round. A look that overflows does so before it touches the round. -/
def target (r : Round) (call : Call) : Round :=
  match call.outcome r with
  | .ok next => next
  | .error _ => r

/-- The call drops those who only confirm a read: it says so, or it is a look that lets the read of
a trimming form go on. -/
def Trims (r : Round) : Call → Prop
  | dropChecks => True
  | progressRead f v primary secondaries joining arbiters =>
    f.policy.trimsChecks ∧ f.policy.readResend.holds
      ((Tally.ofCounts v primary secondaries joining arbiters).observe r) = .ok false
  | _ => False

end Call

/-- The round of a request before anybody is added to it. -/
def opening (request : RequestId) : Round :=
  { request }

/-- The round after some calls, one after the other. -/
def after (r : Round) (calls : List Call) : Round :=
  calls.foldl Call.target r

/-- One of the calls added the participant when it was up and its identity absent, and the identity
has been in the round after every call since. -/
def Attends (r : Round) (calls : List Call) (p : Participant) : Prop :=
  ∃ before later, calls = before ++ .add p :: later ∧
    p.status.isDown = false ∧ (r.after before).includes p.identity = false ∧
    ∀ seen, seen <+: later → (r.after (before ++ .add p :: seen)).includes p.identity

/-- Nobody in the round is down, and everybody is in it once. -/
structure Sound (r : Round) : Prop where
  up : ∀ p ∈ r.participants, p.status.isDown = false
  distinct : (r.participants.map Participant.identity).Nodup

variable {r : Round} {calls : List Call} {call : Call} {p q : Participant} {family : Family}
  {identity : InstanceId × Endpoint}

/-- A round includes an identity exactly if one of its members has it. -/
lemma includes_iff : r.includes identity ↔ ∃ p ∈ r.participants, p.identity = identity := by
  simp only [includes, List.any_eq_true, decide_eq_true_eq]

/-- A round includes its members. -/
lemma includes_of_mem (mem : p ∈ r.participants) : r.includes p.identity :=
  includes_iff.2 ⟨p, mem, rfl⟩

/-- A round accepts whoever is not down and not included yet. -/
lemma accepts_iff :
    r.accepts p ↔ p.status.isDown = false ∧ r.includes p.identity = false := by
  simp only [accepts, Bool.and_eq_true, Bool.not_eq_true']

/-- Nobody is let in beside a participant of the same identity. -/
lemma not_accepts_of_mem (mem : q ∈ r.participants) (same : q.identity = p.identity) :
    ¬r.accepts p := by
  intro accepted
  have absent := (accepts_iff.1 accepted).2
  rw [← same, includes_of_mem mem] at absent
  cases absent

/-- A family is down exactly if no member of the round belongs to it. -/
lemma isDown_iff : r.isDown family ↔ ∀ p ∈ r.participants, p.status.family ≠ some family := by
  rw [← Bool.not_eq_false, isDown_eq_false_iff]
  simp only [Participant.hasFamily, decide_eq_true_eq, not_exists, not_and, ne_eq]

/-! ## One call -/

/-- What a call can make of the participants. -/
inductive Alters (r : Round) : Call → List Participant → Prop where
  | joins {p : Participant} (accepted : r.accepts p) : Alters r (.add p) (r.participants ++ [p])
  | trims {call : Call} (trims : call.Trims r) : Alters r call r.dropChecks.participants
  | stays {call : Call} (refused : ∀ p, call = .add p → r.accepts p = false)
    (keeps : ¬call.Trims r) : Alters r call r.participants

/-- A look at a write leaves the members of the round alone. -/
lemma participants_progressWrite {f : Form} {v : VolumeType}
    {primary secondaries joining : UInt32} {next : Round}
    (progressed : (f.progressWrite v primary secondaries joining r).value = .ok next) :
    next.participants = r.participants := by
  rw [Form.progressWrite] at progressed
  generalize f.policy.writeResend.holds _ = verdict at progressed
  rcases verdict with o | _ | _ <;> cases progressed <;> rfl

/-- A look at a read drops those who only confirm it exactly if it trims. -/
lemma alters_progressRead {f : Form} {v : VolumeType}
    {primary secondaries joining arbiters : UInt32} :
    Alters r (.progressRead f v primary secondaries joining arbiters)
      ((Call.progressRead f v primary secondaries joining arbiters).target r).participants := by
  rw [Call.target, Call.outcome, Form.progressRead_value]
  cases verdict : f.policy.readResend.holds
      ((Tally.ofCounts v primary secondaries joining arbiters).observe r) with
  | error o => exact .stays nofun (by simp [Call.Trims, verdict])
  | ok resend =>
    cases resend with
    | true => exact .stays nofun (by simp [Call.Trims, verdict])
    | false =>
      cases trims : f.policy.trimsChecks with
      | true =>
        have same : f.readGoesOn r false = r.dropChecks := by
          rw [Form.readGoesOn, if_neg Bool.false_ne_true, if_pos trims]
        simp only [Except.map, same]
        exact .trims ⟨trims, verdict⟩
      | false =>
        simp only [Except.map, Form.participants_readGoesOn trims]
        exact .stays nofun (by simp [Call.Trims, trims])

/-- Every call makes one of these of the participants. -/
theorem alters (r : Round) (call : Call) : Alters r call (call.target r).participants := by
  cases call with
  | add p =>
    rw [Call.target, Call.outcome]
    cases accepted : r.accepts p with
    | true =>
      simp only [add, if_pos accepted]
      exact .joins accepted
    | false =>
      simp only [add, accepted, Bool.false_eq_true, if_false]
      refine .stays ?_ id
      rintro _ ⟨⟩
      exact accepted
  | dropChecks => exact .trims trivial
  | progressWrite f v primary secondaries joining =>
    have same : ((Call.progressWrite f v primary secondaries joining).target r).participants
        = r.participants := by
      rw [Call.target, Call.outcome]
      cases progressed : (f.progressWrite v primary secondaries joining r).value with
      | error o => rfl
      | ok next => exact participants_progressWrite progressed
    rw [same]
    exact .stays nofun id
  | progressRead => exact alters_progressRead

/-- After a call the participants are the one it added and those it did not trim. -/
theorem mem_target_iff : p ∈ (call.target r).participants ↔
    call = .add p ∧ r.accepts p ∨ p ∈ r.participants ∧ ¬(call.Trims r ∧ p.isCheck) := by
  have altered := r.alters call
  generalize (call.target r).participants = participants at altered ⊢
  cases altered with
  | @joins q accepted =>
    rw [List.mem_append, List.mem_singleton, or_comm, Call.add.injEq]
    refine or_congr ⟨fun same => ⟨same.symm, same ▸ accepted⟩, fun same => same.1.symm⟩ ?_
    exact (and_iff_left fun trimmed => trimmed.1).symm
  | trims trims =>
    have notAdded : ¬(call = .add p ∧ r.accepts p) := by
      rintro ⟨rfl, -⟩
      exact trims
    rw [or_iff_right notAdded, dropChecks, List.mem_filter, Bool.not_eq_true',
      ← Bool.not_eq_true]
    exact and_congr_right fun _ => not_congr (and_iff_right trims).symm
  | stays refused keeps =>
    have notAdded : ¬(call = .add p ∧ r.accepts p) := by
      rintro ⟨added, accepted⟩
      rw [refused p added] at accepted
      cases accepted
    rw [or_iff_right notAdded]
    exact (and_iff_left fun trimmed => keeps trimmed.1).symm

namespace Sound

/-- A round without members is sound. -/
lemma of_nobody (nobody : r.participants = []) : r.Sound :=
  ⟨by simp [nobody], by simp [nobody]⟩

/-- In a sound round an identity stands for one member. -/
lemma eq_of_identity (sound : r.Sound) (left : p ∈ r.participants) (right : q ∈ r.participants)
    (same : p.identity = q.identity) : p = q :=
  List.inj_on_of_nodup_map sound.distinct left right same

/-- A call keeps a round sound. -/
theorem target (sound : r.Sound) (call : Call) : (call.target r).Sound where
  up p mem := by
    rcases mem_target_iff.1 mem with ⟨-, accepted⟩ | ⟨mem, -⟩
    · exact (accepts_iff.1 accepted).1
    · exact sound.up p mem
  distinct := by
    have altered := r.alters call
    generalize (call.target r).participants = participants at altered ⊢
    cases altered with
    | @joins p accepted =>
      have absent : p.identity ∉ r.participants.map Participant.identity := by
        intro mem
        obtain ⟨q, mem, same⟩ := List.mem_map.1 mem
        exact not_accepts_of_mem mem same accepted
      rw [List.map_append, List.map_singleton, ← List.concat_eq_append]
      exact sound.distinct.concat absent
    | trims => exact (List.filter_sublist.map _).nodup sound.distinct
    | stays => exact sound.distinct

/-- While the identity of a participant stays, it is the participant that stays. -/
lemma mem_target (sound : r.Sound) (mem : p ∈ r.participants)
    (included : (call.target r).includes p.identity) : p ∈ (call.target r).participants := by
  obtain ⟨q, there, same⟩ := includes_iff.1 included
  rcases mem_target_iff.1 there with ⟨-, accepted⟩ | ⟨stayed, -⟩
  · exact absurd accepted (not_accepts_of_mem mem same.symm)
  · rw [← sound.eq_of_identity stayed mem same]
    exact there

end Sound

/-! ## Any calls -/

/-- The last call is made of the round after the others. -/
lemma after_snoc (r : Round) (calls : List Call) (call : Call) :
    r.after (calls ++ [call]) = call.target (r.after calls) := by
  rw [after, List.foldl_append]
  rfl

/-- Any calls keep a round sound. -/
theorem Sound.after (sound : r.Sound) (calls : List Call) : (r.after calls).Sound := by
  induction calls using List.reverseRecOn with
  | nil => exact sound
  | append_singleton calls call ih =>
    rw [after_snoc]
    exact ih.target call

/-- Without calls nobody attends. -/
lemma not_attends_nil : ¬r.Attends [] p := by
  rintro ⟨before, later, split, -⟩
  simp at split

/-- One more call lets those attend whom it adds, and those who attended and whose identity it left
in place. -/
lemma attends_snoc : r.Attends (calls ++ [call]) p ↔
    call = .add p ∧ (r.after calls).accepts p ∨
      r.Attends calls p ∧ (call.target (r.after calls)).includes p.identity := by
  rw [← after_snoc]
  constructor
  · rintro ⟨before, later, split, up, absent, stayed⟩
    have included := stayed later List.prefix_rfl
    rw [← split] at included
    -- the addition is the last call, or one of those before it
    rcases List.eq_nil_or_concat later with rfl | ⟨rest, last, rfl⟩
    · obtain ⟨rfl, same⟩ := List.append_inj' split rfl
      cases same
      exact .inl ⟨rfl, accepts_iff.2 ⟨up, absent⟩⟩
    · rw [List.concat_eq_append, ← List.cons_append, ← List.append_assoc] at split
      obtain ⟨rfl, -⟩ := List.append_inj' split rfl
      refine .inr ⟨⟨before, rest, rfl, up, absent, fun seen early => stayed seen ?_⟩, included⟩
      rw [List.concat_eq_append]
      exact early.trans (List.prefix_append rest [last])
  · rintro (⟨rfl, accepted⟩ | ⟨⟨before, later, rfl, up, absent, stayed⟩, included⟩)
    · obtain ⟨up, absent⟩ := accepts_iff.1 accepted
      refine ⟨calls, [], rfl, up, absent, fun seen early => ?_⟩
      rw [List.prefix_nil.1 early, after_snoc]
      exact includes_of_mem (mem_target_iff.2 (.inl ⟨rfl, accepted⟩))
    · refine ⟨before, later ++ [call], by simp, up, absent, fun seen early => ?_⟩
      rcases List.prefix_concat_iff.1 early with rfl | early
      · rw [List.append_assoc, List.cons_append] at included
        exact included
      · exact stayed seen early

/-- Who takes part after some calls on a round without participants. -/
theorem mem_after_iff (nobody : r.participants = []) (calls : List Call) :
    p ∈ (r.after calls).participants ↔ r.Attends calls p := by
  have sound := Sound.of_nobody nobody
  induction calls using List.reverseRecOn with
  | nil =>
    rw [after, List.foldl_nil, nobody]
    exact iff_of_false List.not_mem_nil not_attends_nil
  | append_singleton calls call ih =>
    rw [attends_snoc, after_snoc]
    constructor
    · intro mem
      rcases mem_target_iff.1 mem with added | ⟨stayed, -⟩
      · exact .inl added
      · exact .inr ⟨ih.1 stayed, includes_of_mem mem⟩
    · rintro (added | ⟨attends, included⟩)
      · exact mem_target_iff.2 (.inl added)
      · exact (sound.after calls).mem_target (ih.2 attends) included

/-- The round has no single reader of data exactly if two of its participants are to return it. -/
lemma Sound.fetchReader_eq_error_iff (sound : r.Sound) {e : MembershipError} :
    r.fetchReader = .error e ↔ e = .manyFetchReaders r.request ∧
      ∃ p ∈ r.participants, ∃ q ∈ r.participants, p ≠ q ∧ p.isFetch ∧ q.isFetch := by
  have nodup : (r.participants.filter Participant.isFetch).Nodup :=
    List.filter_sublist.nodup (List.Nodup.of_map _ sound.distinct)
  have readers : (∃ p ∈ r.participants, ∃ q ∈ r.participants, p ≠ q ∧ p.isFetch ∧ q.isFetch) ↔
      ∃ p ∈ r.participants.filter Participant.isFetch,
        ∃ q ∈ r.participants.filter Participant.isFetch, p ≠ q := by
    simp only [List.mem_filter]
    constructor
    · rintro ⟨p, left, q, right, ne, reads, alsoReads⟩
      exact ⟨p, ⟨left, reads⟩, q, ⟨right, alsoReads⟩, ne⟩
    · rintro ⟨p, ⟨left, reads⟩, q, ⟨right, alsoReads⟩, ne⟩
      exact ⟨p, left, q, right, ne, reads, alsoReads⟩
  rw [readers, fetchReader]
  generalize r.participants.filter Participant.isFetch = fetching at nodup
  rcases fetching with _ | ⟨p, _ | ⟨q, rest⟩⟩
  · exact iff_of_false nofun (by simp)
  · exact iff_of_false nofun (by simp)
  · have ne : p ≠ q := fun same => (List.nodup_cons.1 nodup).1 (same ▸ List.mem_cons_self)
    simp only [Except.error.injEq]
    exact ⟨fun same => ⟨same.symm, p, by simp, q, by simp, ne⟩, fun same => same.1.symm⟩

/-- After any calls on the round of a request nobody who takes part is down and no two share an
identity. Those take part who were added when their identity was last absent, and have stayed; the
next call drops exactly those who only confirm a read, and only if it trims. The round has no single
reader of data exactly if two participants are to return it, and a role is down exactly if nobody of
its family was added and has stayed. -/
theorem attendance_told_by_calls (request : RequestId) (calls : List Call) :
    let r := (opening request).after calls
    (∀ p ∈ r.participants, p.status.isDown = false) ∧
    (r.participants.map Participant.identity).Nodup ∧
    (∀ p, p ∈ r.participants ↔ (opening request).Attends calls p) ∧
    (∀ call : Call, ∀ p ∈ r.participants,
      p ∉ (call.target r).participants ↔ call.Trims r ∧ p.isCheck) ∧
    (∀ e, r.fetchReader = .error e ↔ e = .manyFetchReaders r.request ∧
      ∃ p ∈ r.participants, ∃ q ∈ r.participants, p ≠ q ∧ p.isFetch ∧ q.isFetch) ∧
    (∀ family, r.isDown family ↔
      ∀ p, (opening request).Attends calls p → p.status.family ≠ some family) := by
  intro r
  have sound : r.Sound := (Sound.of_nobody rfl).after calls
  have attends : ∀ p, p ∈ r.participants ↔ (opening request).Attends calls p :=
    fun p => mem_after_iff rfl calls
  refine ⟨sound.up, sound.distinct, attends, fun call p mem => ?_,
    fun e => sound.fetchReader_eq_error_iff, fun family => ?_⟩
  · have notAdded : ¬(call = .add p ∧ r.accepts p) := by
      rintro ⟨-, accepted⟩
      exact not_accepts_of_mem mem rfl accepted
    rw [mem_target_iff, or_iff_right notAdded, and_iff_right mem, not_not]
  · rw [isDown_iff]
    exact forall_congr' fun p => by rw [attends p]

/-- A reader that only confirms bears its first notes, whatever it is added with, until a look at
the read drops it. It then comes back with other notes, as a second reader of data. -/
theorem attendance_told_by_calls_return :
    ∃ (first second returned : Participant) (calls : List Call),
      first = ⟨1, ⟨"first", 1⟩, .primary, some .fetch⟩ ∧
      second = ⟨2, ⟨"second", 1⟩, .secondary, some .check⟩ ∧
      returned = ⟨2, ⟨"second", 1⟩, .secondaryReadDown, some .fetch⟩ ∧
      calls = [.add first, .add second, .add returned, .progressRead .psi .regular 1 1 0 0,
        .add returned, .add ⟨3, ⟨"third", 1⟩, .joiningSecondaryDown, none⟩] ∧
      (opening .nil).Attends (calls.take 3) second ∧ (opening .nil).Attends calls returned ∧
      ((opening .nil).after calls).fetchReader = .error (.manyFetchReaders .nil) ∧
      ((opening .nil).after calls).isDown .joiningSecondary := by
  let first : Participant := ⟨1, ⟨"first", 1⟩, .primary, some .fetch⟩
  let second : Participant := ⟨2, ⟨"second", 1⟩, .secondary, some .check⟩
  let returned : Participant := ⟨2, ⟨"second", 1⟩, .secondaryReadDown, some .fetch⟩
  let calls : List Call :=
    [.add first, .add second, .add returned, .progressRead .psi .regular 1 1 0 0, .add returned,
      .add ⟨3, ⟨"third", 1⟩, .joiningSecondaryDown, none⟩]
  have early : (opening .nil).after (calls.take 3) = { participants := [first, second] } := by rfl
  have late : (opening .nil).after calls = { participants := [first, returned] } := by rfl
  obtain ⟨-, -, attendsEarly, -⟩ := attendance_told_by_calls .nil (calls.take 3)
  obtain ⟨-, -, attends, -, reader, down⟩ := attendance_told_by_calls .nil calls
  rw [early] at attendsEarly
  rw [late] at attends reader down
  have joining : ∀ p ∈ [first, returned], p.status.family ≠ some .joiningSecondary := by decide
  refine ⟨first, second, returned, calls, rfl, rfl, rfl, rfl,
    (attendsEarly second).1 (by decide), (attends returned).1 (by decide), ?_, ?_⟩
  · rw [late]
    exact (reader _).2 ⟨rfl, first, by decide, returned, by decide, by decide, rfl, rfl⟩
  · rw [late]
    exact (down .joiningSecondary).2 fun p attending => joining p ((attends p).2 attending)

end Round

end ReplicaQuorum
