import ReplicaQuorum.Proofs.Registry.Failure
import ReplicaQuorum.Proofs.Registry.Succession
import ReplicaQuorum.Proofs.Transition.Run

/-!
# Moving on

Whether an instance moves on to a higher replica set that is offered to it. One that knows the
instance is open to it, and so is one without it that lacks members; a complete one is not, and the
instance stays where it is, along every run of offers. But complete is only what has as many members
in use as were asked for. A replica set with more of them is open to everybody, also to an instance
that was replaced in it.
-/

namespace ReplicaQuorum

namespace ReplicaSet

/-- The instance `me` is known to the replica set, or its members in use are fewer or more than the
`total` of a complete one. -/
def IsOpenTo (m : ReplicaSet) (me : InstanceId) (total : Nat) : Prop :=
  m.contains me ∨ m.aliveSize ≠ total

instance (m : ReplicaSet) (me : InstanceId) (total : Nat) : Decidable (m.IsOpenTo me total) :=
  inferInstanceAs (Decidable (_ ∨ _))

variable {m n : ReplicaSet} {me : InstanceId} {total : Nat}

/-- Whom a replica set is open to depends on its roster. -/
lemma isOpenTo_congr (same : n.toRoster = m.toRoster) :
    n.IsOpenTo me total ↔ m.IsOpenTo me total := by
  rw [IsOpenTo, IsOpenTo, same]

/-- Not only what lacks members is open to an instance that it leaves out. -/
lemma isOpenTo_overfull_iff :
    m.IsOpenTo me total ∧ ¬(m.contains me ∨ m.aliveSize < total) ↔
      ¬m.contains me ∧ total < m.aliveSize := by
  have asymm : total < m.aliveSize → ¬m.aliveSize < total := Nat.lt_asymm
  rw [IsOpenTo, ne_iff_lt_or_gt]
  tauto

/-- The instance is admitted exactly if the replica set is open to it, and asking is no error. -/
lemma admits_value (pos : 1 ≤ total) :
    (n.admits m me total).value = .ok (decide (n.IsOpenTo me total)) := by
  have closed : (!n.contains me && decide (n.aliveSize = total)) = true ↔ ¬n.IsOpenTo me total := by
    simp [IsOpenTo]
  rw [admits, if_neg (by omega)]
  split
  · next full => rw [decide_eq_false (closed.1 full)]
  · next other => rw [decide_eq_true (not_not.1 (mt closed.2 other))]

end ReplicaSet

namespace Registry

variable {r next : Registry} {now : Instant} {segment : SegmentId} {m h : ReplicaSet}
  {me : InstanceId} {total : Nat} {sink : Sink}

/-- A higher replica set is refused by those that it is not open to, and by nobody else. -/
lemma refusal?_of_lt (pos : 1 ≤ total) (higher : m.version < h.version) :
    (refusal? m h me total).value =
      .ok (if h.IsOpenTo me total then none else some .notAdmitted) := by
  simp only [refusal?, ReplicaSet.compareTo_eq_gt_iff.2 higher, ReplicaSet.admits_value pos,
    Except.map, decide_eq_true_eq]

/-- Nothing speaks against a replica set exactly if it is higher and open to the instance. -/
lemma refusal?_eq_none_iff (pos : 1 ≤ total) :
    (refusal? m h me total).value = .ok none ↔ m.version < h.version ∧ h.IsOpenTo me total := by
  constructor
  · intro check
    have higher := lt_of_refusal? check
    rw [refusal?_of_lt pos higher] at check
    refine ⟨higher, ?_⟩
    by_contra closed
    rw [if_neg closed] at check
    cases check
  · rintro ⟨higher, opened⟩
    rw [refusal?_of_lt pos higher, if_pos opened]

/-- A higher replica set that is open to the instance is installed once the sink has taken it. -/
lemma install_of_isOpenTo (clear : r.poisoned = false) (pos : 1 ≤ total)
    (held : r.get? segment = some m) (higher : m.version < h.version)
    (opened : h.IsOpenTo me total) (persisted : (r.sink.persist now segment h).value = .ok sink) :
    (Call.install now segment h me total).perform r =
      (.ok (.verdict true), (r.committed sink segment h).raise .installsAccepted) := by
  have check : ∀ current, r.get? segment = some current →
      (refusal? current h me total).value = .ok none := by
    intro current held'
    rw [held] at held'
    cases held'
    exact (refusal?_eq_none_iff pos).2 ⟨higher, opened⟩
  rw [Call.perform, install_value clear check persisted]
  rfl

/-- A higher replica set takes the place of the installed one if it is open to the instance and the
sink takes it. -/
lemma install_eq_true_iff (clear : r.poisoned = false) (pos : 1 ≤ total)
    (held : r.get? segment = some m) (higher : m.version < h.version) :
    ((Call.install now segment h me total).perform r).1 = .ok (.verdict true) ↔
      h.IsOpenTo me total ∧ ∃ sink, (r.sink.persist now segment h).value = .ok sink := by
  constructor
  · intro installed
    have step := perform_step r (.install now segment h me total)
    rw [installed] at step
    generalize ((Call.install now segment h me total).perform r).2 = next at step
    cases step with
    | accepts check persisted =>
      exact ⟨((refusal?_eq_none_iff pos).1 (check m held)).2, _, persisted⟩
  · rintro ⟨opened, sink, persisted⟩
    rw [install_of_isOpenTo clear pos held higher opened persisted]

/-- A higher replica set that is not open to the instance raises a counter, and that is all. -/
lemma install_of_not_isOpenTo (clear : r.poisoned = false) (pos : 1 ≤ total)
    (held : r.get? segment = some m) (higher : m.version < h.version)
    (closed : ¬h.IsOpenTo me total) :
    (Call.install now segment h me total).perform r =
      (.ok (.verdict false), r.raise .installsRefused) := by
  have check : (refusal? m h me total).value = .ok (some .notAdmitted) := by
    rw [refusal?_of_lt pos higher, if_neg closed]
  simp only [Call.perform, install, locked_of_clear clear, held, check]
  rfl

/-! ## Runs of offers -/

/-- The call offers a replica set to the instance `me`, or it offers none. Transitions and
recoveries are left out: they install without asking. -/
def Call.OffersTo (me : InstanceId) (total : Nat) : Call → Prop
  | install _ _ _ offeree size => offeree = me ∧ size = total
  | recover _ | apply _ _ _ => False
  | _ => True

variable {call : Call} {calls : List Call} {answer : Except (Fault StoreError) Answer}

/-- What is open to the instance gives way only to what is. -/
lemma isOpenTo_step (pos : 1 ≤ total) (offers : call.OffersTo me total)
    (step : Step r call answer next) (held : r.get? segment = some m)
    (opened : m.IsOpenTo me total) :
    ∃ n, next.get? segment = some n ∧ n.IsOpenTo me total := by
  cases step with
  | shut => exact ⟨m, held, opened⟩
  | fails => exact ⟨m, held, opened⟩
  | gets => exact ⟨m, held, opened⟩
  | lacks => exact absurd offers not_false
  | loads => exact absurd offers not_false
  | refuses => exact ⟨m, held, opened⟩
  | accepts check =>
    obtain ⟨rfl, rfl⟩ := offers
    exact exists_get?_setInstalled held opened fun held =>
      ((refusal?_eq_none_iff pos).1 (check m held)).2
  | declines => exact absurd offers not_false
  | applies => exact absurd offers not_false
  | poisons => exact absurd offers not_false
  | marks own marked =>
    refine exists_get?_setInstalled held opened fun held => ?_
    rw [own] at held
    cases held
    exact (ReplicaSet.isOpenTo_congr (ReplicaSet.toRoster_of_mark marked)).2 opened
  | rejects own marked =>
    refine exists_get?_setInstalled held opened fun held => ?_
    rw [own] at held
    cases held
    exact (ReplicaSet.isOpenTo_congr (ReplicaSet.toRoster_of_mark marked)).2 opened
  | proceeds => exact ⟨m, held, opened⟩
  | resends => exact ⟨m, held, opened⟩
  | stops => exact ⟨m, held, opened⟩

/-- Along a run of offers the instance stays with replica sets that are open to it. -/
lemma isOpenTo_after (pos : 1 ≤ total) (offers : ∀ call ∈ calls, call.OffersTo me total)
    (held : r.get? segment = some m) (opened : m.IsOpenTo me total) :
    ∃ n, (r.after calls).get? segment = some n ∧ n.IsOpenTo me total := by
  induction calls generalizing r m with
  | nil => exact ⟨m, held, opened⟩
  | cons call calls ih =>
    obtain ⟨first, rest⟩ := List.forall_mem_cons.1 offers
    obtain ⟨k, held, opened⟩ := isOpenTo_step pos first (perform_step r call) held opened
    exact ih rest held opened

/-! ## What the sink says -/

/-- Where what is installed is up to date, the sink takes whatever is above it. -/
lemma Tracks.persist_of_lt {k : MemorySink} (tracks : r.Tracks k) (current : r.UpToDate)
    (valid : now.IsValid) (wf : h.WellFormed) (held : r.get? segment = some m)
    (higher : m.version < h.version) :
    ∃ sink, (r.sink.persist now segment h).value = .ok sink := by
  refine tracks.persist_of_le valid wf fun n loaded => ?_
  obtain ⟨newest, loaded', eq⟩ := current segment m held
  rw [loaded] at loaded'
  cases loaded'
  rw [congrArg Roster.version eq]
  exact le_of_lt higher

/-- As long as nothing goes past the registries, the sink takes whatever is above what is
installed. -/
lemma persist_of_through {path : Option String} {start : Sink} {events : List StoreEvent}
    (begun : (Sink.ofPath path none).value = .ok start) (sound : ∀ e ∈ events, e.IsSound)
    (indirect : ∀ e ∈ events, ¬e.IsDirect) (ran : through { sink := start } events = r)
    (valid : now.IsValid) (wf : h.WellFormed) (held : r.get? segment = some m)
    (higher : m.version < h.version) :
    ∃ sink, (r.sink.persist now segment h).value = .ok sink := by
  have fresh : Tracks { sink := start } {} := ⟨Sink.keeps_of_ofPath begun, nofun⟩
  obtain ⟨⟨k, tracks⟩, -⟩ := fresh.through sound
  have current := fresh.upToDate_through sound indirect nofun
  rw [ran] at tracks current
  exact tracks.persist_of_lt current valid wf held higher

/-- A higher replica set that is offered to an instance takes the place of the installed one exactly
if it is open to the instance and the sink takes it, as it does unless something went past the
registries. So a complete replica set without the instance is refused, which is counted and changes
nothing else, and along every run of offers the instance stays with replica sets that are open to
it. But one that leaves it out and lacks no member is installed all the same exactly if it has more
of them than a complete one. All this is of registries that are not poisoned: one that is has
nothing to do with offers any more. -/
theorem adopts_iff_open (r : Registry) (me : InstanceId) {total : Nat} (pos : 1 ≤ total) :
    (∀ now segment m h, r.poisoned = false → r.get? segment = some m → m.version < h.version →
      (((Call.install now segment h me total).perform r).1 = .ok (.verdict true) ↔
        h.IsOpenTo me total ∧ ∃ sink, (r.sink.persist now segment h).value = .ok sink) ∧
      (((Call.install now segment h me total).perform r).1 = .ok (.verdict true) ∧
          ¬(h.contains me ∨ h.aliveSize < total) ↔
        ¬h.contains me ∧ total < h.aliveSize ∧
          ∃ sink, (r.sink.persist now segment h).value = .ok sink) ∧
      (¬h.contains me → h.aliveSize = total → ∃ next,
        (Call.install now segment h me total).perform r = (.ok (.verdict false), next) ∧
          Counts .installsRefused r next)) ∧
    (∀ calls segment m, (∀ call ∈ calls, Call.OffersTo me total call) →
      r.get? segment = some m → m.IsOpenTo me total →
        ∃ n, (r.after calls).get? segment = some n ∧ n.IsOpenTo me total) ∧
    (∀ path start events, (Sink.ofPath path none).value = .ok start →
      (∀ e ∈ events, StoreEvent.IsSound e ∧ ¬e.IsDirect) →
      through { sink := start } events = r → ∀ now segment m h, now.IsValid → h.WellFormed →
        r.get? segment = some m → m.version < h.version →
          ∃ sink, (r.sink.persist now segment h).value = .ok sink) := by
  refine ⟨fun now segment m h clear held higher =>
      ⟨install_eq_true_iff clear pos held higher, ?_, ?_⟩,
    fun calls segment m offers held opened => isOpenTo_after pos offers held opened, ?_⟩
  · rw [install_eq_true_iff clear pos held higher, and_right_comm, ReplicaSet.isOpenTo_overfull_iff,
      and_assoc]
  · intro absent full
    have closed : ¬h.IsOpenTo me total := not_or.2 ⟨absent, not_not.2 full⟩
    exact ⟨_, install_of_not_isOpenTo clear pos held higher closed, counts_raise r _⟩
  · intro path start events begun events_ok ran now segment m h valid wf held higher
    exact persist_of_through begun (fun e mem => (events_ok e mem).1)
      (fun e mem => (events_ok e mem).2) ran valid wf held higher

/-- An instance that was replaced is not taken along by the full replica set, but by a later one
that lacks members. -/
theorem adopts_iff_open_replaced :
    ∃ (r : Registry) (m full shrunk : ReplicaSet),
      through {} [.call (.install .epoch 1 m 3 3)] = r ∧ r.get? 1 = some m ∧
      m.version < full.version ∧ ¬full.contains 3 ∧ full.aliveSize = 3 ∧
      (∃ next, (Call.install .epoch 1 full 3 3).perform r = (.ok (.verdict false), next) ∧
        Counts .installsRefused r next) ∧
      m.version < shrunk.version ∧ ¬shrunk.contains 3 ∧ shrunk.aliveSize = 2 ∧
      ((Call.install .epoch 1 shrunk 3 3).perform r).1 = .ok (.verdict true) ∧
      ∃ n, (r.after [.install .epoch 1 full 3 3, .install .epoch 1 shrunk 3 3]).get? 1 = some n ∧
        n.IsOpenTo 3 3 := by
  let m : ReplicaSet := .ofRoster
    { version := ⟨1, 0⟩, primary := 1, secondaries := .ofList [2, 3] }
  let full : ReplicaSet := .ofRoster
    { version := ⟨1, 1⟩, primary := 1, secondaries := .ofList [2, 4] }
  let shrunk : ReplicaSet := .ofRoster
    { version := ⟨1, 2⟩, primary := 1, secondaries := .ofList [2] }
  have m_wf : m.WellFormed := by decide
  have shrunk_wf : shrunk.WellFormed := by decide
  have below : m.version < shrunk.version := by decide
  let r : Registry := through {} [.call (.install .epoch 1 m 3 3)]
  have held : r.get? 1 = some m := by rfl
  have sound : ∀ e ∈ [StoreEvent.call (.install .epoch 1 m 3 3)], e.IsSound ∧ ¬e.IsDirect :=
    List.forall_mem_singleton.2 ⟨⟨Instant.epoch_isValid, m_wf⟩, id⟩
  obtain ⟨offered, runs, takes⟩ := adopts_iff_open r 3 (show 1 ≤ 3 by decide)
  obtain ⟨-, -, refuses⟩ := offered .epoch 1 m full rfl held (by decide)
  obtain ⟨accepts, -⟩ := offered .epoch 1 m shrunk rfl held below
  have taken := takes none .empty _ rfl sound rfl .epoch 1 m shrunk Instant.epoch_isValid
    shrunk_wf held below
  exact ⟨r, m, full, shrunk, rfl, held, by decide, by decide, rfl, refuses (by decide) rfl, below,
    by decide, rfl, accepts.2 ⟨by decide, taken⟩, runs _ 1 m (by simp [Call.OffersTo]) held
      (by decide)⟩

/-- The instance is replaced, and then another member is added: the replica set has four members in
use where three are complete, leaves the instance out, and is installed. -/
theorem replaced_instance_adopts_overfull :
    ∃ (r next : Registry) (m h : ReplicaSet),
      Content.decode "1,0,1,-1,2:3,,,,-1,-1" = .ok m ∧
      Content.decode "1,2,1,-1,2:4:5,,,,-1,-1" = .ok h ∧
      Run m [.replaceSecondary 3 4, .addSecondaries [5]] h ∧
      through {} [.call (.install .epoch 1 m 3 3)] = r ∧ r.get? 1 = some m ∧
      m.version < h.version ∧ ¬h.contains 3 ∧ h.aliveSize = 4 ∧
      (Call.install .epoch 1 h 3 3).perform r = (.ok (.verdict true), next) ∧
      next.get? 1 = some h := by
  let m : ReplicaSet := .ofRoster
    { version := ⟨1, 0⟩, primary := 1, secondaries := .ofList [2, 3] }
  let mid : ReplicaSet := .ofRoster
    { version := ⟨1, 1⟩, primary := 1, secondaries := .ofList [2, 4] }
  let h : ReplicaSet := .ofRoster
    { version := ⟨1, 2⟩, primary := 1, secondaries := .ofList [2, 4, 5] }
  have content_m : Content.decode "1,0,1,-1,2:3,,,,-1,-1" = .ok m := by rfl
  have content_h : Content.decode "1,2,1,-1,2:4:5,,,,-1,-1" = .ok h := by rfl
  have replaced : Transition.outcome (.replaceSecondary 3 4) m = .ok (some mid) := by rfl
  have added : Transition.outcome (.addSecondaries [5]) mid = .ok (some h) := by rfl
  have run : Run m [.replaceSecondary 3 4, .addSecondaries [5]] h :=
    .snoc (.snoc .nil replaced) added
  have m_wf : m.WellFormed := by decide
  have h_wf : h.WellFormed := by decide
  have higher : m.version < h.version := by decide
  let r : Registry := through {} [.call (.install .epoch 1 m 3 3)]
  have held : r.get? 1 = some m := by rfl
  have sound : ∀ e ∈ [StoreEvent.call (.install .epoch 1 m 3 3)], e.IsSound :=
    List.forall_mem_singleton.2 ⟨Instant.epoch_isValid, m_wf⟩
  have indirect : ∀ e ∈ [StoreEvent.call (.install .epoch 1 m 3 3)], ¬e.IsDirect :=
    List.forall_mem_singleton.2 id
  have begun : (Sink.ofPath none none).value = .ok .empty := rfl
  obtain ⟨sink, persisted⟩ := persist_of_through begun sound indirect (rfl : through {} _ = r)
    Instant.epoch_isValid h_wf held higher
  have installed := install_of_isOpenTo rfl (show 1 ≤ 3 by decide) held higher
    (show h.IsOpenTo 3 3 by decide) persisted
  exact ⟨r, _, m, h, content_m, content_h, run, rfl, held, higher, by decide, rfl, installed,
    get?_setInstalled_self ..⟩

end Registry

end ReplicaQuorum
