import ReplicaQuorum.Proofs.Registry.Latest

/-!
# Deliveries in any order

Replica sets of one segment that reach an instance in any order, some of them more than once, all
end in the highest one: each is installed, or refused because what is installed is not below it, and
none of them is an error as long as different rosters have different versions.
-/

namespace ReplicaQuorum

namespace Registry

variable {r : Registry} {segment : SegmentId} {now : Instant} {m current : ReplicaSet}
  {me : InstanceId} {total : Nat} {delivered : List ReplicaSet}

/-- The requests to install what is delivered, one after the other. -/
def installs (segment : SegmentId) (me : InstanceId) (total : Nat)
    (deliveries : List (Instant × ReplicaSet)) : List Request :=
  deliveries.map fun d => .call (.install d.1 segment d.2 me total)

/-- A replica set that has the instance is refused exactly if it is not above the current one. -/
lemma exists_refusal? (has : m.contains me) (pos : 0 < total)
    (comparable : m.version = current.version → m.toRoster = current.toRoster) :
    ∃ refusal, (refusal? current m me total).value = .ok refusal ∧
      (refusal = none ↔ current.version < m.version) := by
  rw [refusal?]
  rcases lt_trichotomy m.version current.version with lower | eq | higher
  · rw [ReplicaSet.compareTo_eq_lt_iff.2 lower]
    exact ⟨_, rfl, by simp [lower.le]⟩
  · rw [ReplicaSet.compareTo_eq_eq_iff.2 (comparable eq)]
    exact ⟨_, rfl, by simp [eq]⟩
  · rw [ReplicaSet.compareTo_eq_gt_iff.2 higher]
    have admitted : (m.admits current me total).value = .ok true := by
      rw [ReplicaSet.admits, if_neg pos.ne', has]
      rfl
    exact ⟨none, by simp only [admitted]; rfl, by simp [higher]⟩

/-- The sink takes what is not below the newest replica set that it has. -/
lemma Current.exists_persist (current : r.Current) (now : Instant)
    (above : ∀ k, (r.sink.loadLatest segment).value = .ok (some k) → k.version ≤ m.version) :
    ∃ sink, (r.sink.persist now segment m).value = .ok sink := by
  obtain ⟨s, eq, written⟩ := current.written
  obtain ⟨rosters, holds⟩ := written.holds segment
  have newest : ∀ roster ∈ rosters.getLast?, roster.version ≤ m.version := by
    intro roster last
    refine above (.ofRoster roster) ?_
    rw [eq]
    simp only [Sink.loadLatest, holds.loadLatest]
    rw [last]
    rfl
  have taken : s.persist now segment m = .ok _ :=
    holds.persist_eq_ok_iff.2 ⟨newest, rfl⟩
  rw [eq, Sink.persist, taken]
  exact ⟨_, rfl⟩

/-- What is installed for a segment is the highest of the replica sets that were delivered, and the
lock can be taken for the next one. -/
structure Settled (r : Registry) (segment : SegmentId) (delivered : List ReplicaSet) : Prop where
  current : r.Current
  clear : r.poisoned = false
  nothing : r.get? segment = none →
    delivered = [] ∧ (r.sink.loadLatest segment).value = .ok none
  highest : ∀ m, r.get? segment = some m →
    (∃ d ∈ delivered, d.toRoster = m.toRoster) ∧ ∀ d ∈ delivered, d.version ≤ m.version

/-- Nothing was delivered to a new registry. -/
lemma settled_nil (segment : SegmentId) : Settled {} segment [] where
  current := ⟨⟨{}, rfl, .empty⟩, nofun, nofun⟩
  clear := rfl
  nothing _ := ⟨rfl, rfl⟩
  highest := nofun

/-- What is installed is the highest delivery if it is one of them and none is above it. -/
lemma settled_of_held (upToDate : r.Current) (clear : r.poisoned = false)
    (held : r.get? segment = some m) (mem : ∃ d ∈ delivered, d.toRoster = m.toRoster)
    (above : ∀ d ∈ delivered, d.version ≤ m.version) :
    r.Settled segment delivered where
  current := upToDate
  clear := clear
  nothing none := by cases held.symm.trans none
  highest n held' := by
    cases held.symm.trans held'
    exact ⟨mem, above⟩

/-- A replica set that nothing speaks against is installed, and is the highest one then. -/
lemma Settled.accept (settled : r.Settled segment delivered) (now : Instant) (wf : m.WellFormed)
    (check : ∀ current, r.get? segment = some current →
      (refusal? current m me total).value = .ok none)
    (above : ∀ current, r.get? segment = some current → current.version ≤ m.version) :
    ∃ next, (Call.install now segment m me total).perform r = (.ok (.verdict true), next) ∧
      next.Settled segment (delivered ++ [m]) := by
  have newest : ∀ k, (r.sink.loadLatest segment).value = .ok (some k) → k.version ≤ m.version := by
    intro k loaded
    cases held : r.get? segment with
    | none =>
      rw [(settled.nothing held).2] at loaded
      cases loaded
    | some current =>
      rw [settled.current.latest segment current held] at loaded
      cases loaded
      exact above current held
  obtain ⟨sink, persisted⟩ := settled.current.exists_persist now newest
  have performed : (Call.install now segment m me total).perform r =
      (.ok (.verdict true), (r.committed sink segment m).raise .installsAccepted) := by
    simp only [Call.perform, install_value settled.clear check persisted]
    rfl
  refine ⟨_, performed, settled_of_held ((settled.current.committed wf persisted).raise _)
    settled.clear IdMap.get?_insert_self ⟨m, by simp, rfl⟩ (List.forall_mem_append.2 ⟨?_, by simp⟩)⟩
  intro d mem
  cases held : r.get? segment with
  | none =>
    rw [(settled.nothing held).1] at mem
    cases mem
  | some current => exact ((settled.highest current held).2 d mem).trans (above current held)

/-- A delivery is installed or refused, and the highest replica set so far is installed then. -/
lemma Settled.install (settled : r.Settled segment delivered) (now : Instant) (wf : m.WellFormed)
    (has : m.contains me) (pos : 0 < total)
    (unique : ∀ d ∈ delivered, m.version = d.version → m.toRoster = d.toRoster) :
    ∃ done next, (Call.install now segment m me total).perform r = (.ok (.verdict done), next) ∧
      next.Settled segment (delivered ++ [m]) := by
  cases held : r.get? segment with
  | none => exact ⟨true, settled.accept now wf (by simp [held]) (by simp [held])⟩
  | some current =>
    obtain ⟨⟨newest, mem, same⟩, above⟩ := settled.highest current held
    have comparable : m.version = current.version → m.toRoster = current.toRoster := by
      intro eq
      rw [← same]
      exact unique newest mem (eq.trans (congrArg Roster.version same).symm)
    obtain ⟨refusal, check, higher⟩ := exists_refusal? has pos comparable
    cases refusal with
    | none =>
      refine ⟨true, settled.accept now wf ?_ ?_⟩
      · rintro _ held'
        cases held.symm.trans held'
        exact check
      · rintro _ held'
        cases held.symm.trans held'
        exact (higher.1 rfl).le
    | some refusal =>
      have below : m.version ≤ current.version := not_lt.1 fun lt => by cases higher.2 lt
      have performed : (Call.install now segment m me total).perform r =
          (.ok (.verdict false), r.raise .installsRefused) := by
        simp only [Call.perform, Registry.install, locked_of_clear settled.clear, held, check]
        rfl
      exact ⟨false, _, performed, settled_of_held (settled.current.raise _) settled.clear held
        ⟨newest, List.mem_append_left _ mem, same⟩ (List.forall_mem_append.2 ⟨above, by simpa⟩)⟩

/-- No delivery ends in an error, and the highest replica set of all is installed in the end. -/
lemma Settled.serve (settled : r.Settled segment delivered)
    (deliveries : List (Instant × ReplicaSet)) (pos : 0 < total)
    (wf : ∀ d ∈ deliveries, d.2.WellFormed) (has : ∀ d ∈ deliveries, d.2.contains me)
    (unique : ∀ m ∈ delivered ++ deliveries.map (·.2), ∀ n ∈ delivered ++ deliveries.map (·.2),
      m.version = n.version → m.toRoster = n.toRoster) :
    (∀ answer ∈ (r.serve (installs segment me total deliveries)).1,
        ∃ done, answer.2 = .ok (.verdict done)) ∧
      (r.serve (installs segment me total deliveries)).2.Settled segment
        (delivered ++ deliveries.map (·.2)) := by
  induction deliveries generalizing r delivered with
  | nil =>
    simp only [installs, List.map_nil, Registry.serve, List.append_nil]
    exact ⟨by simp, settled⟩
  | cons d deliveries ih =>
    obtain ⟨wfFirst, wfRest⟩ := List.forall_mem_cons.1 wf
    obtain ⟨hasFirst, hasRest⟩ := List.forall_mem_cons.1 has
    have before : ∀ n ∈ delivered, d.2.version = n.version → d.2.toRoster = n.toRoster :=
      fun n mem => unique d.2 (by simp) n (List.mem_append_left _ mem)
    obtain ⟨done, next, performed, settled⟩ := settled.install d.1 wfFirst hasFirst pos before
    rw [List.map_cons, List.append_cons] at unique ⊢
    obtain ⟨answers, last⟩ := ih settled wfRest hasRest unique
    simp only [installs, List.map_cons, Registry.serve, Request.perform, performed]
    exact ⟨List.forall_mem_cons.2 ⟨⟨done, rfl⟩, answers⟩, last⟩

/-- Well formed replica sets of a segment that have the instance, no two of them different at one
version, are delivered in any order and with any repetitions: no delivery ends in an error, and in
the end the highest one is both installed and loaded. -/
theorem deliveries_converge {offers : List ReplicaSet} {me : InstanceId} {total : Nat}
    (wf : ∀ m ∈ offers, m.WellFormed) (has : ∀ m ∈ offers, m.contains me) (pos : 1 ≤ total)
    (unique : ∀ m ∈ offers, ∀ n ∈ offers, m.version = n.version → m.toRoster = n.toRoster)
    (segment : SegmentId) {deliveries : List (Instant × ReplicaSet)}
    (delivered : ∀ m, m ∈ deliveries.map (·.2) ↔ m ∈ offers) :
    let run := serve {} (installs segment me total deliveries)
    (∀ answer ∈ run.1, ∃ done, answer.2 = .ok (.verdict done)) ∧
    ∀ top ∈ offers, (∀ m ∈ offers, m.version ≤ top.version) →
      ∃ m k, run.2.get? segment = some m ∧ m.toRoster = top.toRoster ∧
        (run.2.sink.loadLatest segment).value = .ok (some k) ∧ k.toRoster = m.toRoster := by
  have mem : ∀ d ∈ deliveries, d.2 ∈ offers :=
    fun d mem => (delivered d.2).1 (List.mem_map_of_mem mem)
  obtain ⟨answers, settled⟩ := (settled_nil segment).serve deliveries pos
    (fun d given => wf d.2 (mem d given)) (fun d given => has d.2 (mem d given))
    (fun m given n given' => unique m ((delivered m).1 given) n ((delivered n).1 given'))
  refine ⟨answers, fun top topMem highest => ?_⟩
  rw [List.nil_append] at settled
  cases held : (serve {} (installs segment me total deliveries)).2.get? segment with
  | none =>
    have given := (delivered top).2 topMem
    rw [(settled.nothing held).1] at given
    cases given
  | some m =>
    obtain ⟨⟨d, given, same⟩, above⟩ := settled.highest m held
    -- what is installed and the highest offer are not below each other
    have dMem := (delivered d).1 given
    have eq : d.version = top.version := le_antisymm (highest d dMem)
      ((above top ((delivered top).2 topMem)).trans (congrArg Roster.version same).symm.le)
    exact ⟨m, _, rfl, same.symm.trans (unique d dMem top topMem eq),
      settled.current.latest segment m held, rfl⟩

/-- Three replica sets, the second one delivered first and once more at the end. -/
theorem deliveries_converge_reordered :
    ∃ (first second third m k : ReplicaSet), first.version < second.version ∧
      second.version < third.version ∧
      (serve {} (installs 1 2 3
        [(.epoch, second), (.epoch, first), (.epoch, third), (.epoch, second)])).2.get? 1 = some m ∧
      m.toRoster = third.toRoster ∧
      ((serve {} (installs 1 2 3
        [(.epoch, second), (.epoch, first), (.epoch, third), (.epoch, second)])).2.sink.loadLatest
          1).value = .ok (some k) ∧ k.toRoster = m.toRoster := by
  let first : ReplicaSet := .ofRoster
    { version := ⟨1, 0⟩, primary := 1, secondaries := .ofList [2, 3] }
  let second : ReplicaSet := .ofRoster
    { version := ⟨1, 1⟩, primary := 1, secondaries := .ofList [2], inactive := .ofList [3] }
  let third : ReplicaSet := .ofRoster
    { version := ⟨2, 0⟩, primary := 2, secondaries := .ofList [1], inactive := .ofList [3] }
  have wf : ∀ m ∈ [first, second, third], m.WellFormed := by decide
  have has : ∀ m ∈ [first, second, third], m.contains 2 := by decide
  have unique : ∀ m ∈ [first, second, third], ∀ n ∈ [first, second, third],
      m.version = n.version → m.toRoster = n.toRoster := by decide
  have delivered : ∀ m, m ∈ [(Instant.epoch, second), (.epoch, first), (.epoch, third),
      (.epoch, second)].map (·.2) ↔ m ∈ [first, second, third] := by
    intro m
    simp only [List.map_cons, List.map_nil, List.mem_cons, List.not_mem_nil, or_false]
    tauto
  have highest : ∀ m ∈ [first, second, third], m.version ≤ third.version := by decide
  obtain ⟨-, converges⟩ := deliveries_converge wf has (by decide : 1 ≤ 3) unique 1 delivered
  obtain ⟨m, k, held, same, loaded, same'⟩ := converges third (by simp) highest
  exact ⟨first, second, third, m, k, by decide, by decide, held, same, loaded, same'⟩

end Registry

end ReplicaQuorum
