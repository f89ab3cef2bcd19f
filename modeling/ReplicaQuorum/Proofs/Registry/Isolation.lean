import ReplicaQuorum.Proofs.Registry.Call
import ReplicaQuorum.Proofs.Store.Memory

/-!
# Segments apart

The segments of a registry share one map, one list of records, the counters and one lock, and only
the lock tells them of each other. Two registries over records in memory agree on a segment if they
have the same installed for it and the same records of it, and have both a lock that can be taken or
both one that cannot. Requests about the segment are answered alike by both, and requests about
other segments keep that, all but an edit that overflows: it poisons the lock for every segment.
-/

namespace ReplicaQuorum

namespace Registry

variable {r k l : Registry} {x y : SegmentId} {now : Instant} {m : ReplicaSet} {sink : Sink}
  {request : Request} {requests : List Request}

/-! ## Edits that overflow -/

/-- The edit that a request applies. -/
def Request.edit? : Request → Option Edit
  | call (.apply _ _ t) => some t.apply
  | edit _ _ _ change => some change
  | _ => none

/-- The lock can be taken for the request, and what it applies to the installed replica set
overflows. -/
def Request.Overflows (r : Registry) (request : Request) : Prop :=
  r.poisoned = false ∧ ∃ change current o, request.edit? = some change ∧
    r.get? request.segment = some current ∧ (change current).value = .error (.overflow o)

/-- No request about another segment overflows ahead of a request about `x`. -/
def Undisturbed (x : SegmentId) : Registry → List Request → Prop
  | _, [] => True
  | r, request :: requests =>
    (request.segment ≠ x → request.Overflows r → ∀ later ∈ requests, later.segment ≠ x) ∧
      Undisturbed x (request.perform r).2 requests

/-- A request that overflows poisons the lock and changes nothing else. -/
lemma perform_of_overflows (overflows : request.Overflows r) :
    (request.perform r).2 = r.poison := by
  obtain ⟨clear, change, current, o, applies, held, given⟩ := overflows
  cases request with
  | call c =>
    cases c with
    | apply now segment t =>
      cases applies
      have applied : (r.apply now segment t.name t.apply).value = _ :=
        apply_of_overflow clear held given
      simp only [Request.perform, Call.perform, applied]
      rfl
    | _ => cases applies
  | edit now segment name change =>
    cases applies
    have applied : (r.apply now segment name change).value = _ :=
      apply_of_overflow clear held given
    simp only [Request.perform, applied]
    rfl

/-! ## Agreement on a segment -/

/-- Both registries are over records in memory, and have the same of a segment. -/
structure Same (x : SegmentId) (r k : Registry) : Prop where
  installed : r.get? x = k.get? x
  records : ∃ s t, r.sink = .memory s ∧ k.sink = .memory t ∧
    recordsOf x s.records = recordsOf x t.records

/-- Both have the same of a segment, and the lock of both can be taken or of neither. -/
structure Agree (x : SegmentId) (r k : Registry) : Prop extends Same x r k where
  lock : r.poisoned = k.poisoned

namespace Agree

/-- A registry over records in memory agrees with itself. -/
lemma refl (memory : ∃ s, r.sink = .memory s) : Agree x r r := by
  obtain ⟨s, eq⟩ := memory
  exact ⟨⟨rfl, s, s, eq, eq, rfl⟩, rfl⟩

/-- Counters do not matter. -/
lemma raise (agree : Agree x r k) (counter : Counter) :
    Agree x (r.raise counter) (k.raise counter) :=
  ⟨⟨agree.installed, agree.records⟩, agree.lock⟩

/-! ## Requests about other segments -/

/-- Counters of the first registry do not matter. -/
lemma raise_left (agree : Agree x r k) (counter : Counter) : Agree x (r.raise counter) k :=
  ⟨⟨agree.installed, agree.records⟩, agree.lock⟩

/-- What is installed of another segment does not matter. -/
lemma setInstalled_left (agree : Agree x r k) (ne : y ≠ x) (m : ReplicaSet) :
    Agree x (r.setInstalled y m) k where
  installed := by
    have kept : (r.setInstalled y m).get? x = if x = y then some m else r.get? x :=
      IdMap.get?_insert
    rw [kept, if_neg ne.symm, agree.installed]
  records := agree.records
  lock := agree.lock

/-- What is persisted of another segment does not matter. -/
lemma committed_left (agree : Agree x r k) (ne : y ≠ x)
    (persisted : (r.sink.persist now y m).value = .ok sink) : Agree x (r.committed sink y m) k := by
  obtain ⟨s, t, own, other, same⟩ := agree.records
  rw [own] at persisted
  cases taken : s.persist now y m with
  | error e => rw [Sink.persist, taken] at persisted; cases persisted
  | ok u =>
    rw [Sink.persist, taken] at persisted
    cases persisted
    obtain rfl := MemorySink.eq_of_persist taken
    refine ⟨⟨(agree.setInstalled_left ne m).installed, _, t, rfl, other, ?_⟩, agree.lock⟩
    rw [recordsOf_append_other _ ne, same]

/-- A request about another segment makes no difference unless it overflows. -/
lemma perform_left (agree : Agree x r k) (ne : request.segment ≠ x)
    (fits : ¬request.Overflows r) : Agree x (request.perform r).2 k := by
  cases request with
  | call c =>
    have step := perform_step r c
    simp only [Request.perform]
    generalize (c.perform r).1 = answer, (c.perform r).2 = next at step
    cases step with
    | shut => exact agree
    | fails => exact agree
    | gets => exact agree
    | lacks => exact agree
    | loads => exact agree.setInstalled_left ne _
    | refuses => exact agree.raise_left _
    | accepts _ persisted => exact (agree.committed_left ne persisted).raise_left _
    | declines => exact agree.raise_left _
    | applies _ _ _ persisted => exact (agree.committed_left ne persisted).raise_left _
    | poisons held given clear => exact absurd ⟨clear, _, _, _, rfl, held, given⟩ fits
    | marks => exact agree.setInstalled_left ne _
    | rejects => exact (agree.setInstalled_left ne _).raise_left _
    | proceeds => exact agree
    | resends => exact agree.raise_left _
    | stops => exact agree
  | edit now y name change =>
    have made := applied r now y name change
    simp only [Request.perform, Prod.map, id]
    generalize (r.apply now y name change).value.1 = answer,
      (r.apply now y name change).value.2 = next at made
    cases made with
    | shut => exact agree
    | fails => exact agree
    | declines => exact agree.raise_left _
    | applies _ _ _ persisted => exact (agree.committed_left ne persisted).raise_left _
    | poisons held given clear => exact absurd ⟨clear, _, _, _, rfl, held, given⟩ fits

/-! ## Requests about the segment -/

/-- The same replica set may be installed in both. -/
lemma setInstalled (agree : Agree x r k) (m : ReplicaSet) :
    Agree x (r.setInstalled x m) (k.setInstalled x m) where
  installed := IdMap.get?_insert_self.trans IdMap.get?_insert_self.symm
  records := agree.records
  lock := agree.lock

/-- Both sinks load the same replica set. -/
lemma loadLatest (agree : Agree x r k) :
    (r.sink.loadLatest x).value = (k.sink.loadLatest x).value := by
  obtain ⟨s, t, own, other, same⟩ := agree.records
  rw [own, other]
  simp only [Sink.loadLatest, MemorySink.loadLatest, latestOf, same]

/-- Both sinks take the same replica sets. -/
lemma commit (agree : Agree x r k) (now : Instant) (m : ReplicaSet) :
    (∃ e, (r.commit now x m).value = .error e ∧ (k.commit now x m).value = .error e) ∨
      ∃ next after, (r.commit now x m).value = .ok next ∧ (k.commit now x m).value = .ok after ∧
        Agree x next after := by
  obtain ⟨s, t, own, other, same⟩ := agree.records
  rw [commit_value, commit_value, own, other]
  simp only [Sink.persist]
  rcases MemorySink.persist_own same with ⟨e, failed, failed'⟩ | ⟨taken, taken'⟩
  · rw [failed, failed']
    exact .inl ⟨e, rfl, rfl⟩
  · rw [taken, taken']
    refine .inr ⟨_, _, rfl, rfl, ⟨(agree.setInstalled m).installed, _, _, rfl, rfl, ?_⟩, agree.lock⟩
    rw [recordsOf_append_own, recordsOf_append_own, same]

/-- Two outcomes with one result, after which the registries agree on a segment. -/
def Alike {α : Type} (x : SegmentId) (first second : Outcome α) : Prop :=
  first.value.1 = second.value.1 ∧ Agree x first.value.2 second.value.2

/-- Both let an operation take the lock, or neither does. -/
lemma locked {α : Type} {first second : Outcome α} (agree : Agree x r k)
    (alike : Alike x first second) : Alike x (r.locked first) (k.locked second) := by
  rw [Registry.locked, Registry.locked, agree.lock]
  split
  · exact ⟨rfl, agree⟩
  · exact alike

/-- Both tell the same replica set. -/
lemma get (agree : Agree x r k) : Alike x (r.get x) (k.get x) := by
  refine agree.locked ⟨?_, agree⟩
  rw [agree.installed]

/-- Both recover the same replica set. -/
lemma recover (agree : Agree x r k) : Alike x (r.recover x) (k.recover x) := by
  refine agree.locked ?_
  dsimp only
  rw [agree.loadLatest]
  cases (k.sink.loadLatest x).value with
  | error e => exact ⟨rfl, agree⟩
  | ok newest =>
    cases newest with
    | none => exact ⟨rfl, agree⟩
    | some m => exact ⟨rfl, agree.setInstalled m⟩

/-- Both commit the same replica sets. -/
lemma accept (agree : Agree x r k) (now : Instant) (m : ReplicaSet) (notices : List Notice) :
    Alike x (r.accept now x m notices) (k.accept now x m notices) := by
  rw [Registry.accept, Registry.accept]
  rcases agree.commit now m with ⟨e, failed, failed'⟩ | ⟨next, after, taken, taken', agree'⟩
  · rw [failed, failed']
    exact ⟨rfl, agree⟩
  · rw [taken, taken']
    exact ⟨rfl, agree'.raise _⟩

/-- Both install the same replica sets. -/
lemma install (agree : Agree x r k) (now : Instant) (m : ReplicaSet) (me : InstanceId)
    (total : Nat) : Alike x (r.install now x m me total) (k.install now x m me total) := by
  refine agree.locked ?_
  rw [agree.installed]
  cases k.get? x with
  | none => exact agree.accept now m []
  | some current =>
    dsimp only
    cases (refusal? current m me total).value with
    | error e => exact ⟨rfl, agree⟩
    | ok refusal =>
      cases refusal with
      | none => exact agree.accept now m _
      | some refusal => exact ⟨rfl, agree.raise _⟩

/-- Both apply the same edits, and are poisoned by the same ones. -/
lemma apply (agree : Agree x r k) (now : Instant) (name : String) (change : Edit) :
    Alike x (r.apply now x name change) (k.apply now x name change) := by
  refine agree.locked ?_
  rw [agree.installed]
  cases k.get? x with
  | none => exact ⟨rfl, agree⟩
  | some current =>
    dsimp only
    cases (change current).value with
    | error fault =>
      cases fault with
      | error e => exact ⟨rfl, agree⟩
      | overflow o => exact ⟨rfl, ⟨agree.installed, agree.records⟩, rfl⟩
    | ok result =>
      cases result with
      | none => exact ⟨rfl, agree.raise _⟩
      | some next =>
        dsimp only
        split
        · rcases agree.commit now next with ⟨e, failed, failed'⟩ | ⟨_, _, taken, taken', agree'⟩
          · rw [failed, failed']
            exact ⟨rfl, agree⟩
          · rw [taken, taken']
            exact ⟨rfl, agree'.raise _⟩
        · exact ⟨rfl, agree.raise _⟩

/-- Both record the same statuses. -/
lemma mark (agree : Agree x r k) (member : InstanceId) (status : Status) :
    Alike x (r.mark x member status) (k.mark x member status) := by
  refine agree.locked ?_
  rw [agree.installed]
  cases k.get? x with
  | none => exact ⟨rfl, agree⟩
  | some m =>
    dsimp only
    rcases (m.mark member status).value with ⟨e | taken, next⟩
    · exact ⟨rfl, agree.setInstalled next⟩
    · cases taken with
      | false => exact ⟨rfl, (agree.setInstalled next).raise _⟩
      | true => exact ⟨rfl, agree.setInstalled next⟩

/-- Both advance a write alike, and leave the same round. -/
lemma advanceWrite (agree : Agree x r k) (v : VolumeType) (primary secondaries joining : UInt32)
    (round : Round) :
    Alike x (r.advanceWrite x v primary secondaries joining round).1
        (k.advanceWrite x v primary secondaries joining round).1 ∧
      (r.advanceWrite x v primary secondaries joining round).2 =
        (k.advanceWrite x v primary secondaries joining round).2 := by
  rw [Registry.advanceWrite, Registry.advanceWrite, agree.lock, agree.installed]
  split
  · exact ⟨⟨rfl, agree⟩, rfl⟩
  · cases k.get? x with
    | none => exact ⟨⟨rfl, agree⟩, rfl⟩
    | some m =>
      dsimp only
      cases m.form v with
      | error e => exact ⟨⟨rfl, agree⟩, rfl⟩
      | ok form =>
        dsimp only
        cases (form.progressWrite v primary secondaries joining
            { round with form := some form, replicas := some m }).value with
        | error o => exact ⟨⟨rfl, agree⟩, rfl⟩
        | ok after =>
          refine ⟨⟨rfl, ?_⟩, rfl⟩
          dsimp only
          split
          · exact agree.raise _
          · exact agree

/-- Both answer a write alike. -/
lemma processWrite (agree : Agree x r k) (v : VolumeType) (primary secondaries joining : UInt32)
    (round : Round) :
    Alike x (r.processWrite x v primary secondaries joining round)
      (k.processWrite x v primary secondaries joining round) := by
  obtain ⟨alike, after⟩ := agree.advanceWrite v primary secondaries joining round
  refine ⟨?_, alike.2⟩
  simp only [Registry.processWrite, Prod.map, alike.1, after]

/-- A request about the segment is answered alike, and makes no difference. -/
lemma perform (agree : Agree x r k) (own : request.segment = x) :
    (request.perform r).1 = (request.perform k).1 ∧
      Agree x (request.perform r).2 (request.perform k).2 := by
  have answered {α : Type} {first second : Outcome α} (alike : Alike x first second)
      (f : α → Answer) :
      (first.value.map (·.map f) id).1 = (second.value.map (·.map f) id).1 ∧
        Agree x (first.value.map (·.map f) id).2 (second.value.map (·.map f) id).2 :=
    ⟨congrArg (·.map f) alike.1, alike.2⟩
  subst own
  cases request with
  | call c =>
    cases c with
    | get segment => exact answered agree.get _
    | recover segment => exact answered agree.recover _
    | install now segment offered me total => exact answered (agree.install now offered me total) _
    | apply now segment t => exact answered (agree.apply now t.name t.apply) _
    | mark segment member status => exact answered (agree.mark member status) _
    | processWrite segment v primary secondaries joining round =>
      exact answered (agree.processWrite v primary secondaries joining round) _
  | edit now segment name change => exact answered (agree.apply now name change) _

/-! ## Runs -/

/-- Requests about other segments may be left out, up to one that overflows, if none about the
segment follows it. -/
lemma serve (agree : Agree x r k) (undisturbed : Undisturbed x r requests) :
    (r.serve requests).1.filter (·.1 = x) =
        (k.serve (requests.filter (·.segment = x))).1 ∧
      Same x (r.serve requests).2 (k.serve (requests.filter (·.segment = x))).2 := by
  induction requests generalizing r k with
  | nil => exact ⟨rfl, agree.toSame⟩
  | cons request requests ih =>
    obtain ⟨first, rest⟩ := undisturbed
    by_cases own : request.segment = x
    · obtain ⟨same, next⟩ := agree.perform own
      obtain ⟨answers, final⟩ := ih next rest
      simp only [Registry.serve, List.filter_cons, own, decide_true, if_true, same, answers]
      exact ⟨trivial, final⟩
    · simp only [Registry.serve, List.filter_cons, own, decide_false, Bool.false_eq_true, if_false]
      by_cases overflows : request.Overflows r
      · have others : ∀ later ∈ requests, later.segment ≠ x := first own overflows
        have none : requests.filter (·.segment = x) = [] := by simpa using others
        rw [perform_of_overflows overflows, serve_of_poisoned rfl, none]
        exact ⟨by simpa [Registry.serve] using others, agree.installed, agree.records⟩
      · exact ih (agree.perform_left own overflows) rest

end Agree

/-- Over records in memory, a segment does not tell whether the registry was asked anything about
others, as long as nothing about others overflows ahead of a request about the segment: with all
requests about others left out, the requests about the segment have the same answers, and what is
installed of it, its recorded statuses and its records come out the same. -/
theorem serve_own_segment_undisturbed (s : MemorySink) {requests : List Request} {x : SegmentId}
    (undisturbed : Undisturbed x { sink := .memory s } requests) :
    let all := serve { sink := .memory s } requests
    let own := serve { sink := .memory s } (requests.filter fun request => request.segment = x)
    all.1.filter (fun answer => answer.1 = x) = own.1 ∧
    all.2.get? x = own.2.get? x ∧
    ∃ t u, all.2.sink = .memory t ∧ own.2.sink = .memory u ∧
      recordsOf x t.records = recordsOf x u.records := by
  have start : Agree x { sink := .memory s } { sink := .memory s } := .refl ⟨s, rfl⟩
  obtain ⟨answers, same⟩ := start.serve undisturbed
  exact ⟨answers, same.installed, same.records⟩

/-- Another segment is read from a content of the last generation, and a secondary is removed from
it, after the last request about the first segment. -/
theorem serve_own_segment_undisturbed_late :
    ∃ (m n : ReplicaSet) (requests : List Request),
      Content.decode "1,0,1,-1,2:3,,,,-1,-1" = .ok m ∧
      Content.decode "1,18446744073709551615,1,-1,2:3,,,,-1,-1" = .ok n ∧
      requests = [.call (.install .epoch 1 m 1 3), .call (.install .epoch 2 n 1 3),
        .call (.get 1), .call (.apply .epoch 2 (.removeSecondary 3))] ∧
      Undisturbed 1 { sink := .memory {} } requests ∧
      (serve { sink := .memory {} } requests).2.poisoned = true ∧
      (serve { sink := .memory {} } requests).2.get? 1 = some m ∧
      (serve { sink := .memory {} } requests).1.filter (fun answer => answer.1 = 1) =
        [(1, .ok (.verdict true)), (1, .ok (.replicas (some m)))] := by
  let m : ReplicaSet := .ofRoster
    { version := ⟨1, 0⟩, primary := 1, secondaries := .ofList [2, 3] }
  let n : ReplicaSet := .ofRoster
    { version := ⟨1, 18446744073709551615⟩, primary := 1, secondaries := .ofList [2, 3] }
  let requests : List Request := [.call (.install .epoch 1 m 1 3), .call (.install .epoch 2 n 1 3),
    .call (.get 1), .call (.apply .epoch 2 (.removeSecondary 3))]
  have undisturbed : Undisturbed 1 { sink := .memory {} } requests := by
    refine ⟨fun ne => absurd rfl ne, ?_, fun ne => absurd rfl ne,
      fun _ _ => List.forall_mem_nil _, trivial⟩
    rintro - ⟨-, _, _, _, applies, -⟩
    cases applies
  obtain ⟨answers, held, -⟩ := serve_own_segment_undisturbed {} undisturbed
  exact ⟨m, n, requests, by rfl, by rfl, rfl, undisturbed, by rfl, held.trans (by rfl),
    answers.trans (by rfl)⟩

/-- Another segment is read from a content of the last generation, and the removal of a secondary
from it overflows. The replica set that is installed for the first segment is told without the
requests about the other one, and not told after them. -/
theorem poisoned_by_another_segment :
    ∃ (m n : ReplicaSet) (requests : List Request),
      Content.decode "1,0,1,-1,2:3,,,,-1,-1" = .ok m ∧
      Content.decode "1,18446744073709551615,1,-1,2:3,,,,-1,-1" = .ok n ∧
      requests = [.call (.install .epoch 1 m 1 3), .call (.install .epoch 2 n 1 3),
        .call (.apply .epoch 2 (.removeSecondary 3)), .call (.get 1)] ∧
      (serve {} (requests.filter fun request => request.segment = 1)).1 =
        [(1, .ok (.verdict true)), (1, .ok (.replicas (some m)))] ∧
      (serve {} requests).1.filter (fun answer => answer.1 = 1) =
        [(1, .ok (.verdict true)), (1, .error (.overflow .poisoned))] := by
  let m : ReplicaSet := .ofRoster
    { version := ⟨1, 0⟩, primary := 1, secondaries := .ofList [2, 3] }
  let n : ReplicaSet := .ofRoster
    { version := ⟨1, 18446744073709551615⟩, primary := 1, secondaries := .ofList [2, 3] }
  exact ⟨m, n, _, by rfl, by rfl, rfl, by rfl, by rfl⟩

/-- A run in which every request about a segment got past the lock was undisturbed. -/
theorem undisturbed_of_answered
    (answered : ∀ answer ∈ (r.serve requests).1, answer.1 = x →
      answer.2 ≠ .error (.overflow .poisoned)) : Undisturbed x r requests := by
  induction requests generalizing r with
  | nil => trivial
  | cons request requests ih =>
    obtain ⟨-, rest⟩ := List.forall_mem_cons.1 answered
    refine ⟨fun ne overflows later mem own => ?_, ih rest⟩
    rw [perform_of_overflows overflows, serve_of_poisoned rfl] at rest
    exact rest _ (List.mem_map_of_mem mem) own rfl

end Registry

end ReplicaQuorum
