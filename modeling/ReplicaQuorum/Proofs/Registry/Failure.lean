import ReplicaQuorum.Proofs.Registry.Latest

/-!
# Calls that change nothing

A call that ends in an error leaves everything as it was: what is installed with its statuses, the
records, the counters, and the round of the caller. An offered replica set that is not installed and
a transition that does not apply are counted once, and change nothing else.
-/

namespace ReplicaQuorum

namespace Registry

variable {r : Registry} {segment : SegmentId} {v : VolumeType}
  {primary secondaries joining : UInt32} {round : Round}

/-- The caller's round before a call. -/
def Call.round? : Call → Option Round
  | processWrite _ _ _ _ _ round => some round
  | _ => none

/-- The caller's round after a call. -/
def Call.roundAfter? (r : Registry) : Call → Option Round
  | processWrite segment v primary secondaries joining round =>
    some (r.advanceWrite segment v primary secondaries joining round).2
  | _ => none

/-- The second registry counted one thing more, and is the same otherwise. -/
structure Counts (counter : Counter) (r next : Registry) : Prop where
  installed : next.installed = r.installed
  sink : next.sink = r.sink
  raised : next.counters.get counter = r.counters.get counter + 1
  kept : ∀ other, other ≠ counter → next.counters.get other = r.counters.get other

/-- Raising a counter counts one thing more. -/
lemma counts_raise (r : Registry) (counter : Counter) : Counts counter r (r.raise counter) where
  installed := rfl
  sink := rfl
  raised := by rw [raise, Counters.get_raise, if_pos rfl]
  kept other ne := by rw [raise, Counters.get_raise, if_neg ne, UInt64.add_zero]

/-- The round is bound to the installed replica set only once that has a form. -/
lemma round_of_advanceWrite_eq_error {e : StoreError}
    (failed : (r.advanceWrite segment v primary secondaries joining round).1.value.1
      = .error (.error e)) :
    (r.advanceWrite segment v primary secondaries joining round).2 = round := by
  cases clear : r.poisoned with
  | true => rw [advanceWrite_of_poisoned _ clear]
  | false =>
    revert failed
    rw [advanceWrite, clear, if_neg Bool.false_ne_true]
    cases r.get? segment with
    | none => exact fun _ => rfl
    | some m =>
      dsimp only
      cases m.form v with
      | error => exact fun _ => rfl
      | ok form =>
        dsimp only
        cases (form.progressWrite v primary secondaries joining
            { round with form := some form, replicas := some m }).value with
        | error =>
          intro failed
          cases failed
        | ok =>
          intro failed
          cases failed

/-- A call that ends in an error leaves the caller's round as it was. -/
lemma Call.roundAfter?_of_eq_error {call : Call} {e : StoreError}
    (failed : (call.perform r).1 = .error (.error e)) : call.roundAfter? r = call.round? := by
  cases call with
  | processWrite segment v primary secondaries joining round =>
    have inner : (r.advanceWrite segment v primary secondaries joining round).1.value.1
        = .error (.error e) := by
      simp only [Call.perform, Registry.processWrite, Prod.map] at failed
      cases advanced : (r.advanceWrite segment v primary secondaries joining round).1.value.1 with
      | error fault =>
        rw [advanced] at failed
        cases failed
        rfl
      | ok resend =>
        rw [advanced] at failed
        cases failed
    exact congrArg some (round_of_advanceWrite_eq_error inner)
  | _ => rfl

/-- A call that ends in an error changes nothing, neither in the registry nor in the caller's round.
An offered replica set that is not installed, and a transition without a result at a higher version,
raise one counter by one and change nothing else. -/
theorem failures_change_nothing (r : Registry) :
    (∀ (call : Call) (e : StoreError), (call.perform r).1 = .error (.error e) →
      (call.perform r).2 = r ∧ call.roundAfter? r = call.round?) ∧
    (∀ now segment offered me total next,
      (Call.install now segment offered me total).perform r = (.ok (.verdict false), next) →
        Counts .installsRefused r next) ∧
    (∀ now segment t next,
      (Call.apply now segment t).perform r = (.ok (.replicas none), next) →
        Counts .transitionsRejected r next) := by
  refine ⟨?_, ?_, ?_⟩
  · intro call e failed
    have step := perform_step r call
    refine ⟨?_, Call.roundAfter?_of_eq_error failed⟩
    generalize (call.perform r).2 = next at step
    rw [failed] at step
    cases step with
    | fails => rfl
  · intro now segment offered me total next refused
    have step := perform_step r (.install now segment offered me total)
    rw [refused] at step
    cases step with
    | refuses => exact counts_raise r _
  · intro now segment t next declined
    have step := perform_step r (.apply now segment t)
    rw [declined] at step
    cases step with
    | declines => exact counts_raise r _

/-- A replica set of three members with a registered candidate: the candidate cannot be marked, a
small volume has no form for it, it is not installed twice, and only secondaries are removed. -/
theorem failures_change_nothing_candidate :
    ∃ (r : Registry) (m : ReplicaSet) (round : Round), r.Reachable ∧ r.get? 1 = some m ∧
      m.contains 5 ∧
      (Call.mark 1 5 .secondaryDown).perform r = (.error (.error (.content (.noRole 5 m))), r) ∧
      (Call.processWrite 1 .small 1 2 0 round).perform r =
        (.error (.error (.content (.noForm .small m))), r) ∧
      (r.advanceWrite 1 .small 1 2 0 round).2 = round ∧
      (∃ next, (Call.install .epoch 1 m 1 3).perform r = (.ok (.verdict false), next) ∧
        Counts .installsRefused r next) ∧
      ∃ next, (Call.apply .epoch 1 (.removeSecondary 4)).perform r = (.ok (.replicas none), next) ∧
        Counts .transitionsRejected r next := by
  let m : ReplicaSet := .ofRoster
    { version := ⟨1, 0⟩, primary := 1, secondaries := .ofList [2, 3], secondaryCandidate := some 5 }
  have m_wf : m.WellFormed := by decide
  let r : Registry := after {} [.install .epoch 1 m 1 3]
  have reached : r.Reachable := ⟨{}, _, .empty, by simpa [Call.OffersWellFormed] using m_wf, rfl⟩
  obtain ⟨fails, refuses, declines⟩ := failures_change_nothing r
  have marked : ((Call.mark 1 5 .secondaryDown).perform r).1 =
      .error (.error (.content (.noRole 5 m))) := rfl
  have formless : ((Call.processWrite 1 .small 1 2 0 {}).perform r).1 =
      .error (.error (.content (.noForm .small m))) := rfl
  have refused : ((Call.install .epoch 1 m 1 3).perform r).1 = .ok (.verdict false) := rfl
  have declined : ((Call.apply .epoch 1 (.removeSecondary 4)).perform r).1 =
      .ok (.replicas none) := rfl
  obtain ⟨unmarked, -⟩ := fails _ _ marked
  obtain ⟨unbound, kept⟩ := fails _ _ formless
  exact ⟨r, m, {}, reached, rfl, rfl, Prod.ext marked unmarked, Prod.ext formless unbound,
    Option.some.inj kept, ⟨_, Prod.ext refused rfl, refuses _ _ _ _ _ _ (Prod.ext refused rfl)⟩,
    _, Prod.ext declined rfl, declines _ _ _ _ (Prod.ext declined rfl)⟩

end Registry

end ReplicaQuorum
