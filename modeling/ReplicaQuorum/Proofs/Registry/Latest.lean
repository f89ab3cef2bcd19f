import ReplicaQuorum.Proofs.Registry.Call
import ReplicaQuorum.Proofs.ReplicaSet.Compare
import ReplicaQuorum.Proofs.Store.Memory

/-!
# Installed and persisted

Over records in memory, the installed replica set of a segment is always the one that was persisted
last: whatever is installed was persisted before, unless it comes from the sink itself, and statuses
are no part of a roster. So no call lowers an installed version, not even a recovery.
-/

namespace ReplicaQuorum

namespace Registry

variable {r next : Registry} {segment : SegmentId} {now : Instant} {m : ReplicaSet} {sink : Sink}

/-- What is installed once a replica set is. -/
lemma get?_setInstalled (r : Registry) (segment other : SegmentId) (m : ReplicaSet) :
    (r.setInstalled segment m).get? other = if other = segment then some m else r.get? other :=
  IdMap.get?_insert

/-- What is installed is what was installed last. -/
lemma get?_setInstalled_self (r : Registry) (segment : SegmentId) (m : ReplicaSet) :
    (r.setInstalled segment m).get? segment = some m :=
  IdMap.get?_insert_self

/-- What holds of the installed replica set still holds once another one is, at any segment, if it
is handed down where that takes its place. -/
lemma exists_get?_setInstalled {P : ReplicaSet → Prop} {own : SegmentId} {k : ReplicaSet}
    (held : r.get? segment = some m) (stays : P m) (kept : r.get? own = some m → P k) :
    ∃ n, (r.setInstalled own k).get? segment = some n ∧ P n := by
  rw [get?_setInstalled]
  by_cases eq : segment = own
  · rw [if_pos eq]
    exact ⟨k, rfl, kept (eq ▸ held)⟩
  · rw [if_neg eq]
    exact ⟨m, held, stays⟩

/-- An offered replica set that nothing speaks against has a higher version. -/
lemma lt_of_refusal? {current offered : ReplicaSet} {me : InstanceId} {total : Nat}
    (check : (refusal? current offered me total).value = .ok none) :
    current.version < offered.version := by
  unfold refusal? at check
  split at check
  · cases check
  · cases check
  · cases check
  · next compared => exact ReplicaSet.compareTo_eq_gt_iff.1 compared

/-- The sink holds what was persisted of well formed replica sets, and the replica set installed for
a segment is the newest one that it has. -/
structure Current (r : Registry) : Prop where
  written : ∃ s, r.sink = .memory s ∧ s.Written
  wellFormed : ∀ segment m, r.get? segment = some m → m.WellFormed
  latest : ∀ segment m, r.get? segment = some m →
    (r.sink.loadLatest segment).value = .ok (some (.ofRoster m.toRoster))

namespace Current

/-- Counters do not matter. -/
lemma raise (current : r.Current) (counter : Counter) : (r.raise counter).Current :=
  ⟨current.written, current.wellFormed, current.latest⟩

/-- The lock does not matter. -/
lemma poison (current : r.Current) : r.poison.Current :=
  ⟨current.written, current.wellFormed, current.latest⟩

/-- A replica set may be installed where it is the newest one, over a sink that has of the other
segments what it had. -/
lemma replace (current : r.Current) (written : ∃ t, sink = .memory t ∧ t.Written)
    (wf : m.WellFormed)
    (newest : (sink.loadLatest segment).value = .ok (some (.ofRoster m.toRoster)))
    (others : ∀ other, other ≠ segment →
      (sink.loadLatest other).value = (r.sink.loadLatest other).value) :
    ({ r with sink }.setInstalled segment m).Current where
  written := written
  wellFormed other k held := by
    rw [get?_setInstalled] at held
    split at held
    · cases held
      exact wf
    · exact current.wellFormed other k held
  latest other k held := by
    rw [get?_setInstalled] at held
    split at held
    · next own =>
      cases held
      exact own ▸ newest
    · next ne => exact (others other ne).trans (current.latest other k held)

/-- The newest replica set of a segment may be installed. -/
lemma setInstalled (current : r.Current) (wf : m.WellFormed)
    (newest : (r.sink.loadLatest segment).value = .ok (some (.ofRoster m.toRoster))) :
    (r.setInstalled segment m).Current :=
  current.replace current.written wf newest fun _ _ => rfl

/-- What the sink has of a segment is well formed, and nobody has seen it yet. -/
lemma of_loadLatest (current : r.Current)
    (loaded : (r.sink.loadLatest segment).value = .ok (some m)) :
    m.WellFormed ∧ m = .ofRoster m.toRoster := by
  obtain ⟨s, eq, written⟩ := current.written
  rw [eq] at loaded
  exact written.wellFormed_of_loadLatest loaded

/-- What the sink takes, it takes into its records. -/
lemma persist_memory (current : r.Current)
    (persisted : (r.sink.persist now segment m).value = .ok sink) :
    ∃ s t, r.sink = .memory s ∧ s.Written ∧ s.persist now segment m = .ok t ∧ sink = .memory t := by
  obtain ⟨s, eq, written⟩ := current.written
  rw [eq] at persisted
  cases taken : s.persist now segment m with
  | error e => rw [Sink.persist, taken] at persisted; cases persisted
  | ok t =>
    rw [Sink.persist, taken] at persisted
    cases persisted
    exact ⟨s, t, eq, written, taken, rfl⟩

/-- A replica set that the sink takes may be installed. -/
lemma committed (current : r.Current) (wf : m.WellFormed)
    (persisted : (r.sink.persist now segment m).value = .ok sink) :
    (r.committed sink segment m).Current := by
  obtain ⟨s, t, eq, written, taken, rfl⟩ := current.persist_memory persisted
  obtain ⟨newest, -⟩ := written.loadLatest_persist wf taken
  have replaced : ({ r with sink := .memory t }.setInstalled segment m).Current := by
    refine current.replace ⟨t, rfl, written.persist wf taken⟩ wf newest fun other ne => ?_
    rw [eq]
    exact written.loadLatest_persist_other taken (Ne.symm ne)
  exact ⟨replaced.written, replaced.wellFormed, replaced.latest⟩

/-- The sink takes no replica set that is below the installed one. -/
lemma le_of_persist (current : r.Current) (wf : m.WellFormed)
    (persisted : (r.sink.persist now segment m).value = .ok sink) {k : ReplicaSet}
    (held : r.get? segment = some k) : k.version ≤ m.version := by
  obtain ⟨s, t, eq, written, taken, -⟩ := current.persist_memory persisted
  obtain ⟨-, above⟩ := written.loadLatest_persist wf taken
  have latest := current.latest segment k held
  rw [eq] at latest
  exact above (.ofRoster k.toRoster) latest

/-- Recorded statuses do not matter. -/
lemma mark (current : r.Current) {k : ReplicaSet} (held : r.get? segment = some m)
    (same : k.toRoster = m.toRoster) : (r.setInstalled segment k).Current := by
  refine current.setInstalled ?_ ?_
  · exact same ▸ current.wellFormed segment m held
  · exact same ▸ current.latest segment m held

end Current

/-- A replica set that is offered in the call is well formed, as all are. -/
def Call.OffersWellFormed : Call → Prop
  | .install _ _ offered _ _ => offered.WellFormed
  | _ => True

variable {call : Call} {answer : Except (Fault StoreError) Answer}

/-- Every step leaves the newest replica sets installed. -/
lemma Current.step (current : r.Current) (wf : call.OffersWellFormed)
    (step : Step r call answer next) : next.Current := by
  cases step with
  | shut => exact current
  | fails => exact current
  | gets => exact current
  | lacks => exact current
  | loads loaded =>
    obtain ⟨wf, eq⟩ := current.of_loadLatest loaded
    exact current.setInstalled wf (eq ▸ loaded)
  | refuses => exact current.raise _
  | accepts _ persisted => exact (current.committed wf persisted).raise _
  | declines => exact current.raise _
  | applies held given _ persisted =>
    have wf := Transition.wellFormed_of_outcome (current.wellFormed _ _ held) given
    exact (current.committed wf persisted).raise _
  | poisons => exact current.poison
  | marks held marked => exact current.mark held (ReplicaSet.toRoster_of_mark marked)
  | rejects held marked =>
    exact (current.mark held (ReplicaSet.toRoster_of_mark marked)).raise _
  | proceeds => exact current
  | resends => exact current.raise _
  | stops => exact current

/-- No step lowers an installed version. -/
lemma Current.le_of_step (current : r.Current) (wf : call.OffersWellFormed)
    (step : Step r call answer next) (held : r.get? segment = some m) :
    ∃ n, next.get? segment = some n ∧ m.version ≤ n.version := by
  have replaced : ∀ own k, (r.get? own = some m → m.version ≤ k.version) →
      ∃ n, (r.setInstalled own k).get? segment = some n ∧ m.version ≤ n.version := fun _ _ =>
    exists_get?_setInstalled (P := fun n => m.version ≤ n.version) held (le_refl _)
  cases step with
  | shut => exact ⟨m, held, le_refl _⟩
  | fails => exact ⟨m, held, le_refl _⟩
  | gets => exact ⟨m, held, le_refl _⟩
  | lacks => exact ⟨m, held, le_refl _⟩
  | @loads own k loaded =>
    refine replaced own k fun held => ?_
    have latest := current.latest own m held
    rw [loaded] at latest
    cases latest
    exact le_refl _
  | refuses => exact ⟨m, held, le_refl _⟩
  | accepts _ persisted => exact replaced _ _ fun held => current.le_of_persist wf persisted held
  | declines => exact ⟨m, held, le_refl _⟩
  | applies own given higher =>
    refine replaced _ _ fun held => ?_
    rw [own] at held
    cases held
    exact le_of_lt higher
  | poisons => exact ⟨m, held, le_refl _⟩
  | marks own marked =>
    refine replaced _ _ fun held => ?_
    rw [own] at held
    cases held
    rw [ReplicaSet.toRoster_of_mark marked]
  | rejects own marked =>
    refine replaced _ _ fun held => ?_
    rw [own] at held
    cases held
    rw [ReplicaSet.toRoster_of_mark marked]
  | proceeds => exact ⟨m, held, le_refl _⟩
  | resends => exact ⟨m, held, le_refl _⟩
  | stops => exact ⟨m, held, le_refl _⟩

/-! ## Runs of calls -/

variable {calls : List Call}

/-- Every run of calls leaves the newest replica sets installed. -/
lemma Current.after (current : r.Current) (wf : ∀ call ∈ calls, call.OffersWellFormed) :
    (r.after calls).Current := by
  induction calls generalizing r with
  | nil => exact current
  | cons call calls ih =>
    have ⟨first, rest⟩ := List.forall_mem_cons.1 wf
    exact ih (current.step first (perform_step r call)) rest

/-- No run of calls lowers an installed version. -/
lemma Current.le_after (current : r.Current) (wf : ∀ call ∈ calls, call.OffersWellFormed)
    (held : r.get? segment = some m) :
    ∃ n, (r.after calls).get? segment = some n ∧ m.version ≤ n.version := by
  induction calls generalizing r m with
  | nil => exact ⟨m, held, le_refl _⟩
  | cons call calls ih =>
    have ⟨first, rest⟩ := List.forall_mem_cons.1 wf
    have step := perform_step r call
    obtain ⟨k, held, below⟩ := current.le_of_step first step held
    obtain ⟨n, held, above⟩ := ih (current.step first step) rest held
    exact ⟨n, held, below.trans above⟩

/-- A registry that calls lead to from a new one over records in memory, all of them persisted. -/
def Reachable (r : Registry) : Prop :=
  ∃ s calls, MemorySink.Written s ∧ (∀ call ∈ calls, Call.OffersWellFormed call) ∧
    r = after { sink := .memory s } calls

/-- What runs of calls lead to has the newest replica sets installed. -/
lemma Reachable.current (reached : r.Reachable) : r.Current := by
  obtain ⟨s, calls, written, wf, rfl⟩ := reached
  have start : Current { sink := .memory s } := ⟨⟨s, rfl, written⟩, nofun, nofun⟩
  exact start.after wf

/-- What a sink in memory has of each segment is what is installed of it, all along every run of
calls: no later call lowers an installed version, an accepted replica set and an applied transition
raise it, and the versions in the records of a segment never decrease. -/
theorem Reachable.installed_is_latest (reached : r.Reachable) :
    (∀ segment m, r.get? segment = some m →
      ∃ k, (r.sink.loadLatest segment).value = .ok (some k) ∧ k.toRoster = m.toRoster) ∧
    (∀ later, (∀ call ∈ later, Call.OffersWellFormed call) → ∀ segment m,
      r.get? segment = some m →
        ∃ n, (r.after later).get? segment = some n ∧ m.version ≤ n.version) ∧
    (∀ now segment offered me total next m,
      (Call.install now segment offered me total).perform r = (.ok (.verdict true), next) →
        r.get? segment = some m →
          next.get? segment = some offered ∧ m.version < offered.version) ∧
    (∀ now segment t k next m,
      (Call.apply now segment t).perform r = (.ok (.replicas (some k)), next) →
        r.get? segment = some m → next.get? segment = some k ∧ m.version < k.version) ∧
    (∃ s, r.sink = .memory s ∧ ∀ segment,
      (recordsOf segment s.records).Pairwise fun earlier later => ∃ m n,
        earlier.replicas = .ok m ∧ later.replicas = .ok n ∧ m.version ≤ n.version) := by
  have current := reached.current
  refine ⟨?_, ?_, ?_, ?_, ?_⟩
  · intro segment m held
    exact ⟨_, current.latest segment m held, rfl⟩
  · intro later wf segment m held
    exact current.le_after wf held
  · intro now segment offered me total next m performed held
    have step := perform_step r (.install now segment offered me total)
    rw [performed] at step
    cases step with
    | accepts check => exact ⟨get?_setInstalled_self .., lt_of_refusal? (check m held)⟩
  · intro now segment t k next m performed held
    have step := perform_step r (.apply now segment t)
    rw [performed] at step
    cases step with
    | applies own _ higher =>
      rw [own] at held
      cases held
      exact ⟨get?_setInstalled_self .., higher⟩
  · obtain ⟨s, eq, written⟩ := current.written
    exact ⟨s, eq, written.ascending⟩

/-- A recovered replica set gives way to a higher one that is offered. -/
theorem Reachable.installed_is_latest_recovered :
    ∃ (r next : Registry) (m offered : ReplicaSet), r.Reachable ∧ r.get? 1 = some m ∧
      (Call.install .epoch 1 offered 2 3).perform r = (.ok (.verdict true), next) ∧
      next.get? 1 = some offered ∧ m.version < offered.version ∧
      ∃ k, (r.sink.loadLatest 1).value = .ok (some k) ∧ k.toRoster = m.toRoster := by
  let first : ReplicaSet := .ofRoster
    { version := ⟨1, 0⟩, primary := 1, secondaries := .ofList [2, 3] }
  let offered : ReplicaSet := .ofRoster
    { version := ⟨1, 1⟩, primary := 1, secondaries := .ofList [2, 4] }
  let sink : MemorySink := ⟨[.ofReplicaSet .epoch 1 first]⟩
  let r : Registry := { sink := .memory sink, installed := (∅ : IdMap ReplicaSet).insert 1 first }
  have first_wf : first.WellFormed := by decide
  have persisted : MemorySink.persist {} .epoch 1 first = .ok sink := by rfl
  have written : sink.Written := .persist .empty first_wf persisted
  have holds : sink.Holds 1 [first.toRoster] :=
    ⟨rfl, by simpa using first_wf, List.pairwise_singleton _ _⟩
  have loaded : sink.loadLatest 1 = .ok (some first) := holds.loadLatest
  have ran : after { sink := .memory sink } [.recover 1] = r := by
    simp only [after, List.foldl, Call.perform, recover, Sink.loadLatest, loaded]
    rfl
  have reached : r.Reachable := ⟨sink, _, written, by simp [Call.OffersWellFormed], ran.symm⟩
  have held : r.get? 1 = some first := by rfl
  have check : (refusal? first offered 2 3).value = .ok none := by rfl
  have above : first.version ≤ offered.version := by decide
  have taken : sink.persist .epoch 1 offered =
      .ok ⟨sink.records ++ [.ofReplicaSet .epoch 1 offered]⟩ :=
    holds.persist_eq_ok_iff.2 ⟨by rintro _ ⟨⟩; exact above, rfl⟩
  have performed : ∃ next, (Call.install .epoch 1 offered 2 3).perform r
      = (.ok (.verdict true), next) := by
    simp only [Call.perform, install, held, check, accept, commit_value, r, Sink.persist, taken]
    exact ⟨_, rfl⟩
  obtain ⟨next, performed⟩ := performed
  obtain ⟨latest, -, raises, -⟩ := Reachable.installed_is_latest reached
  obtain ⟨installed, raised⟩ := raises _ _ _ _ _ _ first performed held
  exact ⟨r, next, first, offered, reached, held, performed, installed, raised, latest 1 first held⟩

end Registry

end ReplicaQuorum
