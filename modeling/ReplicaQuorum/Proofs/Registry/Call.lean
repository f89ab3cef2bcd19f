import ReplicaQuorum.Proofs.Liveness.Record
import ReplicaQuorum.Proofs.Version
import ReplicaQuorum.Registry

/-!
# Calls

What a call of one of a registry's operations can do to it. A call that ends in an error does
nothing; one that succeeds either raises a counter at most, or installs one replica set: an offered
one that nothing speaks against, the result of a transition at a higher version, the newest one of
the sink, or the installed one with a status recorded. An edit that is none of the transitions is
applied as they are. An edit that overflows poisons the lock and does nothing else, and on a
poisoned registry no call does anything.
-/

namespace ReplicaQuorum

namespace Registry

/-- A call of one of the operations. -/
inductive Call where
  | get (segment : SegmentId)
  | recover (segment : SegmentId)
  | install (now : Instant) (segment : SegmentId) (offered : ReplicaSet) (me : InstanceId)
    (total : Nat)
  | apply (now : Instant) (segment : SegmentId) (t : Transition)
  | mark (segment : SegmentId) (member : InstanceId) (status : Status)
  | processWrite (segment : SegmentId) (v : VolumeType) (primary secondaries joining : UInt32)
    (round : Round)

/-- An edit of a replica set. -/
abbrev Edit := ReplicaSet → Logged (Except (Fault MembershipError) (Option ReplicaSet))

/-- What a registry is asked to do. -/
inductive Request where
  | call (call : Call)
  /-- An application of any edit, whether it is one of the transitions or not. -/
  | edit (now : Instant) (segment : SegmentId) (name : String) (change : Edit)

/-- The segment that a call is about. -/
def Call.segment : Call → SegmentId
  | get segment | recover segment | install _ segment _ _ _ | apply _ segment _
  | mark segment _ _ | processWrite segment _ _ _ _ _ => segment

/-- The segment that a request is about. -/
def Request.segment : Request → SegmentId
  | call c => c.segment
  | edit _ segment _ _ => segment

/-- What a call tells its caller. -/
inductive Answer where
  | replicas (m : Option ReplicaSet)
  /-- The replica set was installed, or the status was taken. -/
  | verdict (done : Bool)
  /-- The write has to be sent again, and the round after it. -/
  | progress (resend : Bool) (after : Round)

/-- The answer to a call and the registry after it. -/
def Call.perform (r : Registry) : Call → Except (Fault StoreError) Answer × Registry
  | get segment => (r.get segment).value.map (·.map .replicas) id
  | recover segment => (r.recover segment).value.map (·.map .replicas) id
  | install now segment offered me total =>
    (r.install now segment offered me total).value.map (·.map .verdict) id
  | apply now segment t => (r.apply now segment t.name t.apply).value.map (·.map .replicas) id
  | mark segment member status => (r.mark segment member status).value.map (·.map .verdict) id
  | processWrite segment v primary secondaries joining round =>
    (r.processWrite segment v primary secondaries joining round).value.map
      (·.map fun (resend, after) => .progress resend after) id

/-- The registry after some calls, one after the other. -/
def after (r : Registry) (calls : List Call) : Registry :=
  calls.foldl (fun r call => (call.perform r).2) r

/-- The answer to a request and the registry after it. -/
def Request.perform (r : Registry) : Request → Except (Fault StoreError) Answer × Registry
  | call c => c.perform r
  | edit now segment name change =>
    (r.apply now segment name change).value.map (·.map .replicas) id

/-- The answers to some requests, one after the other, each with the segment it is about, and the
registry after them. -/
def serve (r : Registry) :
    List Request → List (SegmentId × Except (Fault StoreError) Answer) × Registry
  | [] => ([], r)
  | request :: requests =>
    let first := request.perform r
    let rest := first.2.serve requests
    ((request.segment, first.1) :: rest.1, rest.2)

/-- The registry with a replica set installed that the sink has taken. -/
def committed (r : Registry) (sink : Sink) (segment : SegmentId) (m : ReplicaSet) : Registry :=
  ({ r with sink }.raise .snapshotsPersisted).setInstalled segment m

/-- What a call can answer and make of a registry. -/
inductive Step (r : Registry) : Call → Except (Fault StoreError) Answer → Registry → Prop where
  | shut {call} (poisoned : r.poisoned = true) : Step r call (.error (.overflow .poisoned)) r
  | fails {call} (e : StoreError) : Step r call (.error (.error e)) r
  | gets {segment} : Step r (.get segment) (.ok (.replicas (r.get? segment))) r
  | lacks {segment} (loaded : (r.sink.loadLatest segment).value = .ok none) :
    Step r (.recover segment) (.ok (.replicas none)) r
  | loads {segment m} (loaded : (r.sink.loadLatest segment).value = .ok (some m)) :
    Step r (.recover segment) (.ok (.replicas (some m))) (r.setInstalled segment m)
  | refuses {now segment offered me total current refusal}
    (held : r.get? segment = some current)
    (check : (refusal? current offered me total).value = .ok (some refusal)) :
    Step r (.install now segment offered me total) (.ok (.verdict false)) (r.raise .installsRefused)
  | accepts {now segment offered me total sink}
    (check : ∀ current, r.get? segment = some current →
      (refusal? current offered me total).value = .ok none)
    (persisted : (r.sink.persist now segment offered).value = .ok sink)
    (clear : r.poisoned = false) :
    Step r (.install now segment offered me total) (.ok (.verdict true))
      ((r.committed sink segment offered).raise .installsAccepted)
  | declines {now segment current} {t : Transition} (held : r.get? segment = some current)
    (lower : ∀ next, t.outcome current = .ok (some next) → ¬current.version < next.version) :
    Step r (.apply now segment t) (.ok (.replicas none)) (r.raise .transitionsRejected)
  | applies {now segment current next sink} {t : Transition} (held : r.get? segment = some current)
    (given : t.outcome current = .ok (some next)) (higher : current.version < next.version)
    (persisted : (r.sink.persist now segment next).value = .ok sink) (clear : r.poisoned = false) :
    Step r (.apply now segment t) (.ok (.replicas (some next)))
      ((r.committed sink segment next).raise .transitionsApplied)
  | poisons {now segment current o} {t : Transition} (held : r.get? segment = some current)
    (given : t.outcome current = .error (.overflow o)) (clear : r.poisoned = false) :
    Step r (.apply now segment t) (.error (.overflow o)) r.poison
  | marks {segment member status m next} (held : r.get? segment = some m)
    (marked : (m.mark member status).value = (.ok true, next)) :
    Step r (.mark segment member status) (.ok (.verdict true)) (r.setInstalled segment next)
  | rejects {segment member status m next} (held : r.get? segment = some m)
    (marked : (m.mark member status).value = (.ok false, next)) :
    Step r (.mark segment member status) (.ok (.verdict false))
      ((r.setInstalled segment next).raise .statusMovesRejected)
  | proceeds {segment v primary secondaries joining round} (after : Round)
    (settled : after.resendDirectly = false) :
    Step r (.processWrite segment v primary secondaries joining round)
      (.ok (.progress false after)) r
  | resends {segment v primary secondaries joining round} (after : Round)
    (again : after.resendDirectly = true) :
    Step r (.processWrite segment v primary secondaries joining round)
      (.ok (.progress true after)) (r.raise .resendDecisions)
  | stops {segment v primary secondaries joining round} (o : Overflow) :
    Step r (.processWrite segment v primary secondaries joining round) (.error (.overflow o)) r

variable (r : Registry) (now : Instant) (segment : SegmentId)

/-- What the application of an edit can answer and make of a registry. -/
inductive Applied (edit : Edit) :
    Except (Fault StoreError) (Option ReplicaSet) → Registry → Prop where
  | shut (poisoned : r.poisoned = true) : Applied edit (.error (.overflow .poisoned)) r
  | fails (e : StoreError) : Applied edit (.error (.error e)) r
  | declines {current} (held : r.get? segment = some current)
    (lower : ∀ next, (edit current).value = .ok (some next) → ¬current.version < next.version) :
    Applied edit (.ok none) (r.raise .transitionsRejected)
  | applies {current next sink} (held : r.get? segment = some current)
    (given : (edit current).value = .ok (some next)) (higher : current.version < next.version)
    (persisted : (r.sink.persist now segment next).value = .ok sink) (clear : r.poisoned = false) :
    Applied edit (.ok (some next)) ((r.committed sink segment next).raise .transitionsApplied)
  | poisons {current o} (held : r.get? segment = some current)
    (given : (edit current).value = .error (.overflow o)) (clear : r.poisoned = false) :
    Applied edit (.error (.overflow o)) r.poison

/-- Installing what is installed anyway changes nothing. -/
lemma setInstalled_eq_self {m : ReplicaSet} (held : r.get? segment = some m) :
    r.setInstalled segment m = r := by
  have same : r.installed.insert segment m = r.installed := by
    ext1 other
    rw [IdMap.get?_insert]
    split
    · next own => rw [own, ← held, get?]
    · rfl
  rw [setInstalled, same]

/-- A replica set is committed if the sink takes it. -/
lemma commit_value (m : ReplicaSet) :
    (r.commit now segment m).value =
      (r.sink.persist now segment m).value.map fun sink => r.committed sink segment m := by
  simp only [commit]
  cases (r.sink.persist now segment m).value with
  | error e => rfl
  | ok sink => rfl

/-! ## The lock -/

section Poisoned

variable {r} (poisoned : r.poisoned = true)

include poisoned

/-- An operation has no outcome of its own where the lock is poisoned. -/
lemma locked_of_poisoned {α : Type} (operation : Outcome α) : r.locked operation = r.shut := by
  rw [locked, if_pos poisoned]

/-- The round of a write that cannot get the lock stays as it is. -/
lemma advanceWrite_of_poisoned (v : VolumeType) (primary secondaries joining : UInt32)
    (round : Round) :
    r.advanceWrite segment v primary secondaries joining round = (r.shut, round) := by
  rw [advanceWrite, if_pos poisoned]

/-- On a poisoned registry a request has no answer and does nothing. -/
lemma perform_of_poisoned (request : Request) :
    request.perform r = (.error (.overflow .poisoned), r) := by
  cases request with
  | call c =>
    cases c with
    | get => rw [Request.perform, Call.perform, get, locked_of_poisoned poisoned]; rfl
    | recover => rw [Request.perform, Call.perform, recover, locked_of_poisoned poisoned]; rfl
    | install => rw [Request.perform, Call.perform, install, locked_of_poisoned poisoned]; rfl
    | apply => rw [Request.perform, Call.perform, apply, locked_of_poisoned poisoned]; rfl
    | mark => rw [Request.perform, Call.perform, mark, locked_of_poisoned poisoned]; rfl
    | processWrite =>
      rw [Request.perform, Call.perform, processWrite, advanceWrite_of_poisoned _ poisoned]
      rfl
  | edit => rw [Request.perform, apply, locked_of_poisoned poisoned]; rfl

/-- From a poisoned lock on, no request has an answer and nothing changes. -/
theorem serve_of_poisoned (requests : List Request) :
    r.serve requests =
      (requests.map fun request => (request.segment, .error (.overflow .poisoned)), r) := by
  induction requests with
  | nil => rfl
  | cons request requests ih =>
    rw [serve, perform_of_poisoned poisoned, ih]
    rfl

end Poisoned

/-- An operation has its outcome where the lock can be taken. -/
lemma locked_of_clear {α : Type} {r : Registry} (clear : r.poisoned = false)
    (operation : Outcome α) : r.locked operation = operation := by
  rw [locked, clear, if_neg Bool.false_ne_true]

/-! ## Steps -/

section Clear

variable (clear : r.poisoned = false)

include clear

/-- The newest replica set of the sink is installed if there is one. -/
lemma recover_step :
    Step r (.recover segment) ((Call.recover segment).perform r).1
      ((Call.recover segment).perform r).2 := by
  simp only [Call.perform, recover, locked_of_clear clear]
  cases loaded : (r.sink.loadLatest segment).value with
  | error e => exact .fails _
  | ok newest =>
    cases newest with
    | none => exact .lacks loaded
    | some m => exact .loads loaded

/-- A replica set that nothing speaks against is installed if the sink takes it. -/
lemma accept_step {offered : ReplicaSet} {me : InstanceId} {total : Nat} {notices : List Notice}
    (check : ∀ current, r.get? segment = some current →
      (refusal? current offered me total).value = .ok none) :
    Step r (.install now segment offered me total)
      ((r.accept now segment offered notices).value.1.map .verdict)
      (r.accept now segment offered notices).value.2 := by
  simp only [accept, commit_value]
  cases persisted : (r.sink.persist now segment offered).value with
  | error e => exact .fails _
  | ok sink => exact .accepts check persisted clear

/-- An offered replica set is installed or refused. -/
lemma install_step (offered : ReplicaSet) (me : InstanceId) (total : Nat) :
    Step r (.install now segment offered me total)
      ((Call.install now segment offered me total).perform r).1
      ((Call.install now segment offered me total).perform r).2 := by
  simp only [Call.perform, install, locked_of_clear clear]
  cases held : r.get? segment with
  | none =>
    refine accept_step r now segment clear ?_
    rw [held]
    exact nofun
  | some current =>
    cases check : (refusal? current offered me total).value with
    | error e => simpa only [check] using .fails _
    | ok refusal =>
      cases refusal with
      | none =>
        simp only [check]
        refine accept_step r now segment clear ?_
        rw [held]
        rintro _ ⟨⟩
        exact check
      | some refusal => simpa only [check] using .refuses held check

/-- A member that cannot be marked leaves the record of statuses as it was. -/
lemma mark_step (member : InstanceId) (status : Status) :
    Step r (.mark segment member status) ((Call.mark segment member status).perform r).1
      ((Call.mark segment member status).perform r).2 := by
  simp only [Call.perform, mark, locked_of_clear clear]
  cases held : r.get? segment with
  | none => exact .fails _
  | some m =>
    rcases marked : (m.mark member status).value with ⟨e | taken, next⟩
    · obtain rfl := ReplicaSet.eq_of_mark_eq_error marked
      simp only [marked, failed, setInstalled_eq_self r segment held]
      exact .fails _
    · cases taken with
      | false => simpa only [marked] using .rejects held marked
      | true => simpa only [marked] using .marks held marked

/-- A write is told to go on or to be sent again, unless its counts overflow. -/
lemma processWrite_step (v : VolumeType) (primary secondaries joining : UInt32) (round : Round) :
    Step r (.processWrite segment v primary secondaries joining round)
      ((Call.processWrite segment v primary secondaries joining round).perform r).1
      ((Call.processWrite segment v primary secondaries joining round).perform r).2 := by
  simp only [Call.perform, processWrite, advanceWrite, clear, Bool.false_eq_true, if_false]
  cases held : r.get? segment with
  | none => exact .fails _
  | some m =>
    cases formed : m.form v with
    | error e => simpa only [formed] using .fails _
    | ok form =>
      simp only [formed]
      cases progressed : (form.progressWrite v primary secondaries joining
          { round with form := some form, replicas := some m }).value with
      | error o => exact .stops o
      | ok after =>
        simp only [Prod.map, Except.map]
        cases resend : after.resendDirectly with
        | false => exact .proceeds after resend
        | true => exact .resends after resend

end Clear

/-- The application of an edit does one of the steps. -/
lemma applied (name : String) (edit : Edit) :
    Applied r now segment edit (r.apply now segment name edit).value.1
      (r.apply now segment name edit).value.2 := by
  cases clear : r.poisoned with
  | true => simpa only [apply, locked_of_poisoned clear] using .shut clear
  | false =>
    simp only [apply, locked_of_clear clear]
    cases held : r.get? segment with
    | none => exact .fails _
    | some current =>
      cases given : (edit current).value with
      | error fault =>
        cases fault with
        | error e => simpa only [given] using .fails _
        | overflow o => simpa only [given] using .poisons held given clear
      | ok result =>
        cases result with
        | none =>
          simp only [given]
          refine .declines held ?_
          rw [given]
          exact nofun
        | some next =>
          simp only [given]
          by_cases higher : current.version < next.version
          · simp only [if_pos higher, commit_value]
            cases persisted : (r.sink.persist now segment next).value with
            | error e => exact .fails _
            | ok sink => exact .applies held given higher persisted clear
          · simp only [if_neg higher]
            refine .declines held ?_
            rw [given]
            rintro _ ⟨⟩
            exact higher

/-- A transition is applied as the edit that it is. -/
lemma apply_step (t : Transition) :
    Step r (.apply now segment t) ((Call.apply now segment t).perform r).1
      ((Call.apply now segment t).perform r).2 := by
  have made := applied r now segment t.name t.apply
  simp only [Call.perform, Prod.map]
  generalize (r.apply now segment t.name t.apply).value.1 = answer,
    (r.apply now segment t.name t.apply).value.2 = next at made
  cases made with
  | shut poisoned => exact .shut poisoned
  | fails => exact .fails _
  | declines held lower => exact .declines held lower
  | applies held given higher persisted clear => exact .applies held given higher persisted clear
  | poisons held given clear => exact .poisons held given clear

/-- A call does one of the steps. -/
theorem perform_step (call : Call) : Step r call (call.perform r).1 (call.perform r).2 := by
  cases clear : r.poisoned with
  | true =>
    have nothing : call.perform r = _ := perform_of_poisoned clear (.call call)
    rw [nothing]
    exact .shut clear
  | false =>
    cases call with
    | get segment =>
      rw [Call.perform, get, locked_of_clear clear]
      exact .gets
    | recover segment => exact recover_step r segment clear
    | install now segment offered me total =>
      exact install_step r now segment clear offered me total
    | apply now segment t => exact apply_step r now segment t
    | mark segment member status => exact mark_step r segment clear member status
    | processWrite segment v primary secondaries joining round =>
      exact processWrite_step r segment clear v primary secondaries joining round

variable {r now segment}

/-- An offered replica set that nothing speaks against is installed once the sink has taken it. -/
lemma install_value {m : ReplicaSet} {me : InstanceId} {total : Nat} {sink : Sink}
    (clear : r.poisoned = false)
    (check : ∀ current, r.get? segment = some current →
      (refusal? current m me total).value = .ok none)
    (persisted : (r.sink.persist now segment m).value = .ok sink) :
    (r.install now segment m me total).value =
      (.ok true, (r.committed sink segment m).raise .installsAccepted) := by
  rw [install, locked_of_clear clear]
  cases held : r.get? segment with
  | none => simp only [accept, commit_value, persisted, Except.map]
  | some current => simp only [check current held, accept, commit_value, persisted, Except.map]

/-- The result of an edit is installed at a higher version once the sink has taken it. -/
lemma apply_value {name : String} {edit : Edit} {current m : ReplicaSet} {sink : Sink}
    (clear : r.poisoned = false) (held : r.get? segment = some current)
    (given : (edit current).value = .ok (some m)) (higher : current.version < m.version)
    (persisted : (r.sink.persist now segment m).value = .ok sink) :
    (r.apply now segment name edit).value =
      (.ok (some m), (r.committed sink segment m).raise .transitionsApplied) := by
  simp only [apply, locked_of_clear clear, held, given, if_pos higher, commit_value, persisted,
    Except.map]

/-- An edit that overflows has no result, and the lock that was held for it is poisoned. -/
lemma apply_of_overflow {name : String} {edit : Edit} {current : ReplicaSet} {o : Overflow}
    (clear : r.poisoned = false) (held : r.get? segment = some current)
    (given : (edit current).value = .error (.overflow o)) :
    (r.apply now segment name edit).value = (.error (.overflow o), r.poison) := by
  simp only [apply, locked_of_clear clear, held, given]

end Registry

end ReplicaQuorum
