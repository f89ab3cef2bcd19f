import Mathlib.Algebra.BigOperators.Group.List.Basic
import Mathlib.Algebra.GroupWithZero.Nat
import ReplicaQuorum.Proofs.Registry.Call
import ReplicaQuorum.Proofs.Store.Memory

/-!
# Tallies

The counters of a registry against the answers that it gave and the records that it wrote. One list
says which counters an answered request raises. A request raises these and adds a record exactly if
a snapshot is among them, so after any run of requests on a new registry every counter is a number
of answers, as long as there are not more of them than a word can count.
-/

namespace ReplicaQuorum

namespace Registry

/-- A request and the answer to it. -/
structure Exchange where
  request : Request
  answer : Except (Fault StoreError) Answer

/-- The requests of a run with their answers. -/
def exchanges (r : Registry) (requests : List Request) : List Exchange :=
  requests.zipWith (fun request answer => ⟨request, answer.2⟩) (r.serve requests).1

/-- The request offers a replica set. -/
def Request.isInstall : Request → Bool
  | call (.install ..) => true
  | _ => false

/-- The request applies a transition or any other edit. -/
def Request.isApply : Request → Bool
  | call (.apply ..) | edit .. => true
  | _ => false

namespace Exchange

/-- An offered replica set was installed or turned down, and there was no error. -/
def settlesInstall (e : Exchange) : Bool :=
  e.request.isInstall && e.answer.isOk

/-- A transition was applied or turned down, and there was no error. -/
def settlesApply (e : Exchange) : Bool :=
  e.request.isApply && e.answer.isOk

/-- A status was not taken. -/
def dropsStatus : Exchange → Bool
  | ⟨.call (.mark ..), .ok (.verdict false)⟩ => true
  | _ => false

/-- The counters that an answered request raises. -/
def raised : Exchange → List Counter
  | ⟨.call (.install ..), .ok (.verdict true)⟩ => [.snapshotsPersisted, .installsAccepted]
  | ⟨.call (.install ..), .ok (.verdict false)⟩ => [.installsRefused]
  | ⟨.call (.apply ..), .ok (.replicas (some _))⟩ | ⟨.edit .., .ok (.replicas (some _))⟩ =>
    [.snapshotsPersisted, .transitionsApplied]
  | ⟨.call (.apply ..), .ok (.replicas none)⟩ | ⟨.edit .., .ok (.replicas none)⟩ =>
    [.transitionsRejected]
  | ⟨.call (.mark ..), .ok (.verdict false)⟩ => [.statusMovesRejected]
  | ⟨.call (.processWrite ..), .ok (.progress true _)⟩ => [.resendDecisions]
  | _ => []

/-- No counter is raised twice by one request. -/
lemma nodup_raised (e : Exchange) : e.raised.Nodup := by
  unfold raised
  split <;> decide

end Exchange

/-- How often a counter was raised in a run. -/
def tally (log : List Exchange) (counter : Counter) : Nat :=
  (log.flatMap Exchange.raised).count counter

/-- The first exchange is counted with the others. -/
lemma tally_cons (e : Exchange) (log : List Exchange) (counter : Counter) :
    tally (e :: log) counter = e.raised.count counter + tally log counter := by
  rw [tally, List.flatMap_cons, List.count_append, tally]

/-- A counter is raised by each request at most once. -/
lemma tally_le_length (log : List Exchange) (counter : Counter) :
    tally log counter ≤ log.length := by
  induction log with
  | nil => exact Nat.le_refl 0
  | cons e log ih =>
    have once := List.nodup_iff_count_le_one.1 e.nodup_raised counter
    rw [tally_cons, List.length_cons]
    omega

/-! ## One request -/

variable {r next : Registry} {e : Exchange}

/-- The answer is one of those that the request can get, so that it is counted as what it is. -/
structure Exchange.Settled (e : Exchange) : Prop where
  persists : e.raised.count .snapshotsPersisted =
    e.raised.count .installsAccepted + e.raised.count .transitionsApplied
  installs : e.raised.count .installsAccepted + e.raised.count .installsRefused =
    e.settlesInstall.toNat
  applies : e.raised.count .transitionsApplied + e.raised.count .transitionsRejected =
    e.settlesApply.toNat
  drops : e.raised.count .statusMovesRejected = e.dropsStatus.toNat

/-- The second registry has counted the exchange, and has one record more in memory if a snapshot
is among what it counted. -/
structure Books (r : Registry) (e : Exchange) (next : Registry) : Prop where
  counters : ∀ counter, next.counters.get counter =
    r.counters.get counter + UInt64.ofNat (e.raised.count counter)
  records : ∀ s, r.sink = .memory s → ∃ t, next.sink = .memory t ∧
    t.records.length = s.records.length + e.raised.count .snapshotsPersisted

/-- An error raises no counter. -/
lemma raised_error (request : Request) (fault : Fault StoreError) :
    Exchange.raised ⟨request, .error fault⟩ = [] := by
  cases request with
  | call call => cases call <;> rfl
  | edit => rfl

/-- An error is an answer to any request, and is counted as nothing. -/
lemma settled_error (request : Request) (fault : Fault StoreError) :
    Exchange.Settled ⟨request, .error fault⟩ := by
  have unsettled : ∀ b : Bool, (b && false).toNat = 0 := by decide
  refine ⟨?_, ?_, ?_, ?_⟩
  · simp only [raised_error, List.count_nil]
  · simp only [raised_error, List.count_nil]
    exact (unsettled _).symm
  · simp only [raised_error, List.count_nil]
    exact (unsettled _).symm
  · simp only [raised_error, List.count_nil]
    cases request with
    | call call => cases call <;> rfl
    | edit => rfl

namespace Books

/-- Nothing is counted where the counters and the sink are left alone. -/
lemma of_eq (counters : next.counters = r.counters) (sink : next.sink = r.sink)
    (quiet : e.raised = []) : Books r e next where
  counters counter := by
    rw [counters, quiet, List.count_nil]
    exact (UInt64.add_zero _).symm
  records s held := by
    rw [quiet, List.count_nil]
    exact ⟨s, sink.trans held, rfl⟩

/-- One counter is raised. -/
lemma of_raise {k : Registry} {counter : Counter} (counters : k.counters = r.counters)
    (sink : k.sink = r.sink) (raised : e.raised = [counter])
    (other : counter ≠ .snapshotsPersisted) : Books r e (k.raise counter) where
  counters c := by
    rw [Registry.raise, Counters.get_raise, counters, raised, List.count_singleton]
    by_cases own : c = counter
    · subst own
      simp
    · simp [own, Ne.symm own]
  records s held := by
    rw [raised, List.count_singleton, if_neg (by simpa using other)]
    exact ⟨s, sink.trans held, rfl⟩

/-- A replica set is committed. -/
lemma of_committed {now : Instant} {segment : SegmentId} {m : ReplicaSet} {sink : Sink}
    {counter : Counter} (persisted : (r.sink.persist now segment m).value = .ok sink)
    (raised : e.raised = [.snapshotsPersisted, counter]) (other : counter ≠ .snapshotsPersisted) :
    Books r e ((r.committed sink segment m).raise counter) where
  counters c := by
    have kept : (r.committed sink segment m).counters = r.counters.raise .snapshotsPersisted := rfl
    rw [Registry.raise, Counters.get_raise, kept, Counters.get_raise, raised]
    rcases eq_or_ne c .snapshotsPersisted with rfl | first
    · simp [Ne.symm other]
    · rcases eq_or_ne c counter with rfl | second
      · simp [first, Ne.symm first]
      · simp [first, second, Ne.symm first, Ne.symm second]
  records s held := by
    rw [held, Sink.persist] at persisted
    cases taken : s.persist now segment m with
    | error e => rw [taken] at persisted; cases persisted
    | ok t =>
      rw [taken] at persisted
      cases persisted
      refine ⟨t, rfl, ?_⟩
      rw [MemorySink.eq_of_persist taken, raised]
      simp [other]

end Books

/-- Every step is counted as what it answers. -/
lemma books_of_step {call : Call} {answer : Except (Fault StoreError) Answer}
    (step : Step r call answer next) :
    Exchange.Settled ⟨.call call, answer⟩ ∧ Books r ⟨.call call, answer⟩ next := by
  cases step with
  | shut => exact ⟨settled_error _ _, .of_eq rfl rfl (raised_error _ _)⟩
  | fails => exact ⟨settled_error _ _, .of_eq rfl rfl (raised_error _ _)⟩
  | gets => exact ⟨⟨rfl, rfl, rfl, rfl⟩, .of_eq rfl rfl rfl⟩
  | lacks => exact ⟨⟨rfl, rfl, rfl, rfl⟩, .of_eq rfl rfl rfl⟩
  | loads => exact ⟨⟨rfl, rfl, rfl, rfl⟩, .of_eq rfl rfl rfl⟩
  | refuses => exact ⟨⟨rfl, rfl, rfl, rfl⟩, .of_raise rfl rfl rfl nofun⟩
  | accepts _ persisted => exact ⟨⟨rfl, rfl, rfl, rfl⟩, .of_committed persisted rfl nofun⟩
  | declines => exact ⟨⟨rfl, rfl, rfl, rfl⟩, .of_raise rfl rfl rfl nofun⟩
  | applies _ _ _ persisted => exact ⟨⟨rfl, rfl, rfl, rfl⟩, .of_committed persisted rfl nofun⟩
  | poisons => exact ⟨settled_error _ _, .of_eq rfl rfl (raised_error _ _)⟩
  | marks => exact ⟨⟨rfl, rfl, rfl, rfl⟩, .of_eq rfl rfl rfl⟩
  | rejects => exact ⟨⟨rfl, rfl, rfl, rfl⟩, .of_raise rfl rfl rfl nofun⟩
  | proceeds => exact ⟨⟨rfl, rfl, rfl, rfl⟩, .of_eq rfl rfl rfl⟩
  | resends => exact ⟨⟨rfl, rfl, rfl, rfl⟩, .of_raise rfl rfl rfl nofun⟩
  | stops => exact ⟨settled_error _ _, .of_eq rfl rfl (raised_error _ _)⟩

/-- Every application of an edit is counted as what it answers. -/
lemma books_of_applied {now : Instant} {segment : SegmentId} {name : String} {edit : Edit}
    {answer : Except (Fault StoreError) (Option ReplicaSet)}
    (applied : Applied r now segment edit answer next) :
    Exchange.Settled ⟨.edit now segment name edit, answer.map .replicas⟩ ∧
      Books r ⟨.edit now segment name edit, answer.map .replicas⟩ next := by
  cases applied with
  | shut => exact ⟨settled_error _ _, .of_eq rfl rfl (raised_error _ _)⟩
  | fails => exact ⟨settled_error _ _, .of_eq rfl rfl (raised_error _ _)⟩
  | declines => exact ⟨⟨rfl, rfl, rfl, rfl⟩, .of_raise rfl rfl rfl nofun⟩
  | applies _ _ _ persisted => exact ⟨⟨rfl, rfl, rfl, rfl⟩, .of_committed persisted rfl nofun⟩
  | poisons => exact ⟨settled_error _ _, .of_eq rfl rfl (raised_error _ _)⟩

/-- Every request is counted as what it was answered. -/
theorem perform_books (r : Registry) (request : Request) :
    Exchange.Settled ⟨request, (request.perform r).1⟩ ∧
      Books r ⟨request, (request.perform r).1⟩ (request.perform r).2 := by
  cases request with
  | call c => exact books_of_step (perform_step r c)
  | edit now segment name change => exact books_of_applied (applied r now segment name change)

/-! ## Runs of requests -/

/-- The first request is answered first. -/
lemma exchanges_cons (r : Registry) (request : Request) (requests : List Request) :
    r.exchanges (request :: requests) =
      ⟨request, (request.perform r).1⟩ :: (request.perform r).2.exchanges requests :=
  rfl

/-- Every request has one answer. -/
lemma length_exchanges (r : Registry) (requests : List Request) :
    (r.exchanges requests).length = requests.length := by
  induction requests generalizing r with
  | nil => rfl
  | cons request requests ih => rw [exchanges_cons, List.length_cons, ih, List.length_cons]

/-- Every request of a run got one of the answers that it can get. -/
lemma settled_of_mem_exchanges {requests : List Request} (mem : e ∈ r.exchanges requests) :
    e.Settled := by
  induction requests generalizing r with
  | nil => cases mem
  | cons request requests ih =>
    rw [exchanges_cons] at mem
    rcases List.mem_cons.1 mem with rfl | later
    · exact (perform_books r request).1
    · exact ih later

/-- A run raises every counter as often as its answers say. -/
lemma counters_serve (r : Registry) (requests : List Request) (counter : Counter) :
    (r.serve requests).2.counters.get counter =
      r.counters.get counter + UInt64.ofNat (tally (r.exchanges requests) counter) := by
  induction requests generalizing r with
  | nil => exact (UInt64.add_zero _).symm
  | cons request requests ih =>
    have step := (perform_books r request).2.counters counter
    rw [exchanges_cons, tally_cons, UInt64.ofNat_add, ← UInt64.add_assoc, ← step]
    exact ih (request.perform r).2

/-- A run over records in memory adds one for each snapshot. -/
lemma records_serve {s : MemorySink} (memory : r.sink = .memory s) (requests : List Request) :
    ∃ t, (r.serve requests).2.sink = .memory t ∧
      t.records.length = s.records.length + tally (r.exchanges requests) .snapshotsPersisted := by
  induction requests generalizing r s with
  | nil => exact ⟨s, memory, rfl⟩
  | cons request requests ih =>
    obtain ⟨t, held, step⟩ := (perform_books r request).2.records s memory
    obtain ⟨u, final, rest⟩ := ih held
    refine ⟨u, final, ?_⟩
    rw [rest, step, exchanges_cons, tally_cons, Nat.add_assoc]

/-! ## Reconciliation -/

/-- The tally of a log is the sum of those of its exchanges. -/
lemma tally_eq_sum (log : List Exchange) (counter : Counter) :
    tally log counter = (log.map fun e => e.raised.count counter).sum :=
  List.count_flatMap

/-- The number of exchanges of a kind is the sum of their ones. -/
lemma countP_eq_sum (p : Exchange → Bool) (log : List Exchange) :
    log.countP p = (log.map fun e => (p e).toNat).sum := by
  induction log with
  | nil => rfl
  | cons e log ih =>
    rw [List.countP_cons, ih, List.map_cons, List.sum_cons, Nat.add_comm]
    cases p e <;> rfl

section Log

variable {log : List Exchange} (settled : ∀ e ∈ log, e.Settled)

include settled

/-- A replica set is persisted for each one that is accepted and each transition that is applied. -/
lemma tally_persists :
    tally log .snapshotsPersisted =
      tally log .installsAccepted + tally log .transitionsApplied := by
  simp only [tally_eq_sum, ← List.sum_map_add]
  exact congrArg List.sum (List.map_congr_left fun e mem => (settled e mem).persists)

/-- Each offer without an error is accepted or refused. -/
lemma tally_installs :
    tally log .installsAccepted + tally log .installsRefused =
      log.countP Exchange.settlesInstall := by
  simp only [tally_eq_sum, countP_eq_sum, ← List.sum_map_add]
  exact congrArg List.sum (List.map_congr_left fun e mem => (settled e mem).installs)

/-- Each application without an error is applied or rejected. -/
lemma tally_applies :
    tally log .transitionsApplied + tally log .transitionsRejected =
      log.countP Exchange.settlesApply := by
  simp only [tally_eq_sum, countP_eq_sum, ← List.sum_map_add]
  exact congrArg List.sum (List.map_congr_left fun e mem => (settled e mem).applies)

/-- Each status that is not taken is counted. -/
lemma tally_drops : tally log .statusMovesRejected = log.countP Exchange.dropsStatus := by
  simp only [tally_eq_sum, countP_eq_sum]
  exact congrArg List.sum (List.map_congr_left fun e mem => (settled e mem).drops)

end Log

/-- The counters agree with each other, with the records in memory, and with the answers of a
run. -/
structure Reconciled (r : Registry) (log : List Exchange) : Prop where
  counted : ∀ counter, (r.counters.get counter).toNat = tally log counter
  persists : r.counters.snapshotsPersisted.toNat =
    r.counters.installsAccepted.toNat + r.counters.transitionsApplied.toNat
  records : ∃ s, r.sink = .memory s ∧ r.counters.snapshotsPersisted.toNat = s.records.length
  installs : r.counters.installsAccepted.toNat + r.counters.installsRefused.toNat =
    log.countP Exchange.settlesInstall
  applies : r.counters.transitionsApplied.toNat + r.counters.transitionsRejected.toNat =
    log.countP Exchange.settlesApply
  drops : r.counters.statusMovesRejected.toNat = log.countP Exchange.dropsStatus

/-- The counters of a new registry hold the tally of its answers while that fits a word. -/
lemma toNat_counters_serve {requests : List Request} (few : requests.length < UInt64.size)
    (counter : Counter) :
    ((serve {} requests).2.counters.get counter).toNat = tally (exchanges {} requests) counter := by
  have bound := tally_le_length (exchanges {} requests) counter
  rw [length_exchanges] at bound
  have start : ({} : Registry).counters.get counter = 0 := by cases counter <;> rfl
  rw [counters_serve, start, UInt64.zero_add]
  exact UInt64.toNat_ofNat_of_lt' (bound.trans_lt few)

/-- Whatever a new registry over no records is asked to do, after each request its counters agree
with the answers that it gave and with the records, as long as there are fewer requests than a
counter can count. -/
theorem counters_reconciled {requests : List Request} (few : requests.length < UInt64.size)
    {done : List Request} (upTo : done <+: requests) :
    Reconciled (serve {} done).2 (exchanges {} done) := by
  have settled : ∀ e ∈ exchanges {} done, e.Settled := fun e => settled_of_mem_exchanges
  have counted := toNat_counters_serve (upTo.length_le.trans_lt few)
  obtain ⟨s, memory, records⟩ := records_serve (r := {}) rfl done
  have persisted : (serve {} done).2.counters.snapshotsPersisted.toNat = _ :=
    counted .snapshotsPersisted
  have accepted : (serve {} done).2.counters.installsAccepted.toNat = _ := counted .installsAccepted
  have refused : (serve {} done).2.counters.installsRefused.toNat = _ := counted .installsRefused
  have applied : (serve {} done).2.counters.transitionsApplied.toNat = _ :=
    counted .transitionsApplied
  have rejected : (serve {} done).2.counters.transitionsRejected.toNat = _ :=
    counted .transitionsRejected
  refine ⟨counted, ?_, ⟨s, memory, ?_⟩, ?_, ?_, ?_⟩
  · rw [persisted, accepted, applied, tally_persists settled]
  · rw [persisted, records]
    exact (Nat.zero_add _).symm
  · rw [accepted, refused, tally_installs settled]
  · rw [applied, rejected, tally_applies settled]
  · exact (counted .statusMovesRejected).trans (tally_drops settled)

/-- A replica set is installed, and not again when it is offered once more; a secondary is removed,
and cannot be once more; a status of another role is dropped, and one of the removed secondary is an
error; and the newest replica set is loaded. -/
theorem counters_reconciled_refusals :
    ∃ (requests done : List Request), requests.length < UInt64.size ∧ done <+: requests ∧
      Reconciled (serve {} done).2 (exchanges {} done) ∧
      (serve {} done).2.counters =
        { snapshotsPersisted := 2, installsAccepted := 1, installsRefused := 1,
          transitionsApplied := 1, transitionsRejected := 1, statusMovesRejected := 1 } := by
  let m : ReplicaSet := .ofRoster
    { version := ⟨1, 0⟩, primary := 1, secondaries := .ofList [2, 3] }
  let requests : List Request :=
    [.call (.install .epoch 7 m 1 3), .call (.install .epoch 7 m 1 3),
      .call (.apply .epoch 7 (.removeSecondary 3)), .call (.apply .epoch 7 (.removeSecondary 3)),
      .call (.mark 7 2 .primary), .call (.mark 7 3 .secondaryDown), .call (.recover 7)]
  have few : requests.length < UInt64.size := by decide
  refine ⟨requests, requests, few, List.prefix_rfl, counters_reconciled few List.prefix_rfl, ?_⟩
  decide +kernel

end Registry

end ReplicaQuorum
