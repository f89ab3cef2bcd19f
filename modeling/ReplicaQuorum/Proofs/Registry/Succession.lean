import ReplicaQuorum.Proofs.Registry.Latest
import ReplicaQuorum.Proofs.Store.OneVersion
import ReplicaQuorum.Proofs.Store.Refinement

/-!
# Registries in succession

What can happen to a store while one registry after another is created over it, and replica sets are
persisted past them. A registry compares what it is offered with what it has installed, and a sink
compares versions only. So a different roster at the newest version of a segment is stopped if the
registry has the newest one installed, and gets into the store if it has an older one, or none.
-/

namespace ReplicaQuorum

namespace Registry

variable {r : Registry} {k l : MemorySink} {segment : SegmentId} {now : Instant} {m : ReplicaSet}
  {sink : Sink}

/-- What happens to a store. -/
inductive StoreEvent where
  /-- A call of an operation of the registry. -/
  | call (call : Call)
  /-- An application of any edit, whether it is one of the transitions or not. -/
  | applyEdit (now : Instant) (segment : SegmentId) (name : String) (edit : Edit)
  /-- A replica set is persisted past the registry. -/
  | persist (now : Instant) (segment : SegmentId) (m : ReplicaSet)
  /-- A new registry is created over the sink. -/
  | renew
  /-- The sink is closed and opened again, and a new registry is created over it. -/
  | reopen

namespace StoreEvent

/-- The registry after an event, which is another one if one was created. -/
def perform (r : Registry) : StoreEvent → Registry
  | call c => (c.perform r).2
  | applyEdit now segment name edit => (r.apply now segment name edit).value.2
  | persist now segment m =>
    match (r.sink.persist now segment m).value with
    | .error _ => r
    | .ok sink => { r with sink }
  | renew => { sink := r.sink }
  | reopen =>
    match r.sink.reopen with
    | .error _ => r
    | .ok sink => { sink }

/-- Clocks show instants, replica sets are well formed, and edits keep them so. -/
def IsSound : StoreEvent → Prop
  | call (.install now _ offered _ _) => now.IsValid ∧ offered.WellFormed
  | call (.apply now _ _) => now.IsValid
  | applyEdit now _ _ edit => now.IsValid ∧
    ∀ m next, m.WellFormed → (edit m).value = .ok (some next) → next.WellFormed
  | persist now _ m => now.IsValid ∧ m.WellFormed
  | _ => True

/-- The event goes past the registry. -/
def IsDirect : StoreEvent → Prop
  | persist .. => True
  | _ => False

/-- What is offered to the sink, because nothing in the registry speaks against it. A poisoned
registry offers nothing. -/
inductive Offers (r : Registry) : StoreEvent → Instant → SegmentId → ReplicaSet → Prop where
  | persist {now : Instant} {segment : SegmentId} {m : ReplicaSet} :
    Offers r (.persist now segment m) now segment m
  | install {now : Instant} {segment : SegmentId} {m : ReplicaSet} {me : InstanceId} {total : Nat}
    (check : ∀ current, r.get? segment = some current →
      (refusal? current m me total).value = .ok none) (clear : r.poisoned = false) :
    Offers r (.call (.install now segment m me total)) now segment m
  | apply {now : Instant} {segment : SegmentId} {current m : ReplicaSet} {t : Transition}
    (held : r.get? segment = some current) (given : t.outcome current = .ok (some m))
    (higher : current.version < m.version) (clear : r.poisoned = false) :
    Offers r (.call (.apply now segment t)) now segment m
  | applyEdit {now : Instant} {segment : SegmentId} {name : String} {edit : Edit}
    {current m : ReplicaSet} (held : r.get? segment = some current)
    (given : (edit current).value = .ok (some m)) (higher : current.version < m.version)
    (clear : r.poisoned = false) :
    Offers r (.applyEdit now segment name edit) now segment m

/-- The event offers a different roster at the newest version of a segment. -/
def Overwrites (r : Registry) (e : StoreEvent) : Prop :=
  ∃ now segment m k, e.Offers r now segment m ∧
    (r.sink.loadLatest segment).value = .ok (some k) ∧ m.version = k.version ∧
    m.toRoster ≠ k.toRoster

end StoreEvent

/-- The registry after some events, one after the other. -/
def through (r : Registry) (events : List StoreEvent) : Registry :=
  events.foldl StoreEvent.perform r

variable {e : StoreEvent} {events : List StoreEvent}

/-! ## What an event does -/

/-- The sink is left as it takes what is offered. -/
lemma StoreEvent.Offers.sink_perform (offers : e.Offers r now segment m)
    (persisted : (r.sink.persist now segment m).value = .ok sink) : (e.perform r).sink = sink := by
  cases offers with
  | persist => simp only [StoreEvent.perform, persisted]
  | install check clear =>
    simp only [StoreEvent.perform, Call.perform, install_value clear check persisted]
    rfl
  | @apply _ _ _ _ t held given higher clear =>
    have applied : (r.apply now segment t.name t.apply).value = _ :=
      apply_value clear held given higher persisted
    simp only [StoreEvent.perform, Call.perform, applied]
    rfl
  | applyEdit held given higher clear =>
    simp only [StoreEvent.perform, apply_value clear held given higher persisted]
    rfl

/-- What an event can make of the sink and of what is installed: the sink stays, and whatever is
installed has the roster of what was or is the newest replica set of the sink; or the sink takes
what is offered, and it is installed as well unless it goes past the registry. -/
inductive StoreEvent.Effect (r : Registry) (e : StoreEvent) (next : Registry) : Prop where
  | stays (same : next.sink = r.sink)
    (installed : ∀ segment m, next.get? segment = some m →
      (∃ k, r.get? segment = some k ∧ m.toRoster = k.toRoster) ∨
        (r.sink.loadLatest segment).value = .ok (some m))
  | takes {now : Instant} {segment : SegmentId} {m : ReplicaSet} (offers : e.Offers r now segment m)
    (persisted : (r.sink.persist now segment m).value = .ok next.sink)
    (installed : ∀ other k, next.get? other = some k →
      other = segment ∧ k = m ∨ (e.IsDirect ∨ other ≠ segment) ∧ r.get? other = some k)

/-- The sink stays if it is the same, with the same installed. -/
lemma effect_of_installed_eq {next : Registry} (same : next.sink = r.sink)
    (installed : next.installed = r.installed) : e.Effect r next := by
  refine .stays same fun segment m held => .inl ⟨m, ?_, rfl⟩
  rw [get?, ← installed]
  exact held

/-- A replica set may be installed if it is the newest one of the sink or only statuses change. -/
lemma effect_of_setInstalled
    (known : (∃ k, r.get? segment = some k ∧ m.toRoster = k.toRoster) ∨
      (r.sink.loadLatest segment).value = .ok (some m)) :
    e.Effect r (r.setInstalled segment m) := by
  refine .stays rfl fun other k held => ?_
  rw [get?_setInstalled] at held
  split at held
  · next own =>
    cases held
    exact own ▸ known
  · exact .inl ⟨k, held, rfl⟩

/-- The sink takes what is committed. -/
lemma effect_of_committed (offers : e.Offers r now segment m)
    (persisted : (r.sink.persist now segment m).value = .ok sink) :
    e.Effect r (r.committed sink segment m) := by
  refine .takes offers persisted fun other k held => ?_
  have held : ({ r with sink }.setInstalled segment m).get? other = some k := held
  rw [get?_setInstalled] at held
  split at held
  · next own =>
    cases held
    exact .inl ⟨own, rfl⟩
  · next ne => exact .inr ⟨.inr ne, held⟩

/-- Counters do not matter. -/
lemma StoreEvent.Effect.raise {next : Registry} (effect : e.Effect r next) (counter : Counter) :
    e.Effect r (next.raise counter) := by
  cases effect with
  | stays same installed => exact .stays same installed
  | takes offers persisted installed => exact .takes offers persisted installed

/-- A call has one of the effects. -/
lemma call_effect (c : Call) : (StoreEvent.call c).Effect r (c.perform r).2 := by
  have step := perform_step r c
  generalize (c.perform r).1 = answer, (c.perform r).2 = next at step
  cases step with
  | shut => exact effect_of_installed_eq rfl rfl
  | fails => exact effect_of_installed_eq rfl rfl
  | gets => exact effect_of_installed_eq rfl rfl
  | lacks => exact effect_of_installed_eq rfl rfl
  | loads loaded => exact effect_of_setInstalled (.inr loaded)
  | refuses => exact (effect_of_installed_eq rfl rfl).raise _
  | accepts check persisted clear =>
    exact (effect_of_committed (.install check clear) persisted).raise _
  | declines => exact (effect_of_installed_eq rfl rfl).raise _
  | applies held given higher persisted clear =>
    exact (effect_of_committed (.apply held given higher clear) persisted).raise _
  | poisons => exact effect_of_installed_eq rfl rfl
  | marks held marked =>
    exact effect_of_setInstalled (.inl ⟨_, held, ReplicaSet.toRoster_of_mark marked⟩)
  | rejects held marked =>
    exact (effect_of_setInstalled (.inl ⟨_, held, ReplicaSet.toRoster_of_mark marked⟩)).raise _
  | proceeds => exact effect_of_installed_eq rfl rfl
  | resends => exact (effect_of_installed_eq rfl rfl).raise _
  | stops => exact effect_of_installed_eq rfl rfl

/-- The application of an edit has one of the effects. -/
lemma applyEdit_effect (now : Instant) (segment : SegmentId) (name : String) (edit : Edit) :
    (StoreEvent.applyEdit now segment name edit).Effect r
      (r.apply now segment name edit).value.2 := by
  have made := applied r now segment name edit
  generalize (r.apply now segment name edit).value.1 = answer,
    (r.apply now segment name edit).value.2 = next at made
  cases made with
  | shut => exact effect_of_installed_eq rfl rfl
  | fails => exact effect_of_installed_eq rfl rfl
  | declines => exact (effect_of_installed_eq rfl rfl).raise _
  | applies held given higher persisted clear =>
    exact (effect_of_committed (.applyEdit held given higher clear) persisted).raise _
  | poisons => exact effect_of_installed_eq rfl rfl

/-- An event over a sink that opens again has one of the effects. -/
theorem perform_effect (opens : r.sink.reopen = .ok r.sink) (e : StoreEvent) :
    e.Effect r (e.perform r) := by
  cases e with
  | call c => exact call_effect c
  | applyEdit now segment name edit => exact applyEdit_effect now segment name edit
  | persist now segment m =>
    rw [StoreEvent.perform]
    cases persisted : (r.sink.persist now segment m).value with
    | error e => exact effect_of_installed_eq rfl rfl
    | ok sink => exact .takes .persist persisted fun _ _ held => .inr ⟨.inl trivial, held⟩
  | renew => exact .stays rfl nofun
  | reopen =>
    rw [StoreEvent.perform, opens]
    exact .stays rfl nofun

/-! ## What stays true -/

/-- The sink has what was persisted to a memory sink, and what is installed is well formed. -/
structure Tracks (r : Registry) (k : MemorySink) : Prop where
  keeps : r.sink.Keeps k
  wellFormed : ∀ segment m, r.get? segment = some m → m.WellFormed

/-- What is installed has the roster of the newest replica set that the sink has. -/
def UpToDate (r : Registry) : Prop :=
  ∀ segment m, r.get? segment = some m →
    ∃ n, (r.sink.loadLatest segment).value = .ok (some n) ∧ n.toRoster = m.toRoster

namespace Tracks

/-- What is offered is well formed, at an instant that can be written. -/
lemma of_offers (tracks : r.Tracks k) (sound : e.IsSound) (offers : e.Offers r now segment m) :
    now.IsValid ∧ m.WellFormed := by
  cases offers with
  | persist => exact sound
  | install => exact sound
  | apply held given =>
    exact ⟨sound, Transition.wellFormed_of_outcome (tracks.wellFormed _ _ held) given⟩
  | applyEdit held given => exact ⟨sound.1, sound.2 _ _ (tracks.wellFormed _ _ held) given⟩

/-- What the sink takes is well formed, and a memory sink takes it as well. -/
lemma of_taken (tracks : r.Tracks k) (sound : e.IsSound) (offers : e.Offers r now segment m)
    (persisted : (r.sink.persist now segment m).value = .ok sink) :
    m.WellFormed ∧ ∃ l, k.persist now segment m = .ok l ∧ sink.Keeps l := by
  obtain ⟨valid, wf⟩ := tracks.of_offers sound offers
  exact ⟨wf, tracks.keeps.of_persist valid wf persisted⟩

/-- After an event the sink keeps what a memory sink has after it. -/
lemma perform (tracks : r.Tracks k) (sound : e.IsSound) : ∃ l, (e.perform r).Tracks l := by
  have effect := perform_effect tracks.keeps.reopen e
  generalize e.perform r = next at effect
  cases effect with
  | stays same installed =>
    refine ⟨k, same ▸ tracks.keeps, fun segment m held => ?_⟩
    rcases installed segment m held with ⟨n, held, same⟩ | loaded
    · exact same ▸ tracks.wellFormed segment n held
    · rw [tracks.keeps.loadLatest] at loaded
      exact (tracks.keeps.written.wellFormed_of_loadLatest loaded).1
  | takes offers persisted installed =>
    obtain ⟨wf, l, -, keeps⟩ := tracks.of_taken sound offers persisted
    refine ⟨l, keeps, fun other n held => ?_⟩
    rcases installed other n held with ⟨-, rfl⟩ | ⟨-, held⟩
    · exact wf
    · exact tracks.wellFormed other n held

/-- Only an event that goes past the registry leaves what is installed out of date. -/
lemma upToDate_perform (tracks : r.Tracks k) (sound : e.IsSound) (indirect : ¬e.IsDirect)
    (current : r.UpToDate) : (e.perform r).UpToDate := by
  have effect := perform_effect tracks.keeps.reopen e
  generalize e.perform r = next at effect
  intro segment m held
  cases effect with
  | stays same installed =>
    rw [same]
    rcases installed segment m held with ⟨n, held, eq⟩ | loaded
    · rw [eq]
      exact current segment n held
    · exact ⟨m, loaded, rfl⟩
  | @takes now own offered offers persisted installed =>
    obtain ⟨wf, l, memory, keeps⟩ := tracks.of_taken sound offers persisted
    rw [keeps.loadLatest]
    rcases installed segment m held with ⟨rfl, rfl⟩ | ⟨direct | ne, held⟩
    · exact ⟨_, (tracks.keeps.written.loadLatest_persist wf memory).1, rfl⟩
    · exact absurd direct indirect
    · rw [tracks.keeps.written.loadLatest_persist_other memory (Ne.symm ne),
        ← tracks.keeps.loadLatest]
      exact current segment m held

end Tracks

/-- An event offers one replica set at most. -/
lemma StoreEvent.Offers.unique {other : SegmentId} {later : Instant} {n : ReplicaSet}
    (first : e.Offers r now segment m) (second : e.Offers r later other n) :
    other = segment ∧ n = m := by
  cases first with
  | persist => cases second; exact ⟨rfl, rfl⟩
  | install => cases second; exact ⟨rfl, rfl⟩
  | apply held given =>
    cases second with
    | apply held' given' =>
      rw [held] at held'
      cases held'
      rw [given] at given'
      cases given'
      exact ⟨rfl, rfl⟩
  | applyEdit held given =>
    cases second with
    | applyEdit held' given' =>
      rw [held] at held'
      cases held'
      rw [given] at given'
      cases given'
      exact ⟨rfl, rfl⟩

/-! ## The law -/

/-- The records of the sink are read, and those of a segment that share a version share a roster. -/
def IsLawful (r : Registry) : Prop :=
  ∃ records, r.sink.records = .ok records ∧ ∀ segment, OneRosterPerVersion segment records

namespace Tracks

/-- The law is one about the records of the memory sink. -/
lemma isLawful_iff (keeps : r.sink.Keeps k) :
    r.IsLawful ↔ ∀ segment, OneRosterPerVersion segment k.records := by
  have read := keeps.records_eq
  constructor
  · rintro ⟨records, read', law⟩
    rw [read] at read'
    cases read'
    exact law
  · exact fun law => ⟨k.records, read, law⟩

/-- The sink takes what is not below the newest replica set that it has. -/
lemma persist_of_le (tracks : r.Tracks k) (valid : now.IsValid) (wf : m.WellFormed)
    (above : ∀ n, (r.sink.loadLatest segment).value = .ok (some n) → n.version ≤ m.version) :
    ∃ sink, (r.sink.persist now segment m).value = .ok sink := by
  obtain ⟨rosters, holds⟩ := tracks.keeps.written.holds segment
  have last : ∀ roster ∈ rosters.getLast?, roster.version ≤ m.version := by
    intro roster last
    refine above (.ofRoster roster) ?_
    rw [tracks.keeps.loadLatest, holds.loadLatest, last]
    rfl
  obtain ⟨sink, persisted, -⟩ :=
    tracks.keeps.persist_of_ok valid wf (holds.persist_eq_ok_iff.2 ⟨last, rfl⟩)
  exact ⟨sink, persisted⟩

/-- A different roster at the newest version is taken. -/
lemma taken_of_overwrites (tracks : r.Tracks k) (sound : e.IsSound) (overwrites : e.Overwrites r) :
    ∃ now segment m sink, e.Offers r now segment m ∧
      (r.sink.persist now segment m).value = .ok sink := by
  obtain ⟨now, segment, m, newest, offers, loaded, same, -⟩ := overwrites
  obtain ⟨valid, wf⟩ := tracks.of_offers sound offers
  have above : ∀ n, (r.sink.loadLatest segment).value = .ok (some n) → n.version ≤ m.version := by
    intro n loaded'
    rw [loaded] at loaded'
    cases loaded'
    exact same.ge
  obtain ⟨sink, persisted⟩ := tracks.persist_of_le valid wf above
  exact ⟨now, segment, m, sink, offers, persisted⟩

/-- An event keeps the law exactly if it does not offer a different roster at a newest version. -/
lemma isLawful_perform_iff (tracks : r.Tracks k) (sound : e.IsSound) :
    (e.perform r).IsLawful ↔ r.IsLawful ∧ ¬e.Overwrites r := by
  by_cases taken : ∃ now segment m sink, e.Offers r now segment m ∧
      (r.sink.persist now segment m).value = .ok sink
  · obtain ⟨now, segment, m, sink, offers, persisted⟩ := taken
    obtain ⟨wf, l, memory, keeps⟩ := tracks.of_taken sound offers persisted
    have after : (e.perform r).sink.Keeps l := (offers.sink_perform persisted).symm ▸ keeps
    rw [isLawful_iff after, isLawful_iff tracks.keeps,
      tracks.keeps.written.oneRosterPerVersion_persist_iff wf memory]
    refine and_congr_right fun _ => ⟨?_, ?_⟩
    · rintro same ⟨now', segment', m', newest, offers', loaded, version, ne⟩
      obtain ⟨rfl, rfl⟩ := offers.unique offers'
      rw [tracks.keeps.loadLatest] at loaded
      exact ne (same newest loaded version)
    · intro no newest loaded version
      by_contra ne
      rw [← tracks.keeps.loadLatest] at loaded
      exact no ⟨now, segment, m, newest, offers, loaded, version, ne⟩
  · have same : (e.perform r).sink = r.sink := by
      have effect := perform_effect tracks.keeps.reopen e
      generalize e.perform r = next at effect
      cases effect with
      | stays same => exact same
      | takes offers persisted => exact absurd ⟨_, _, _, _, offers, persisted⟩ taken
    have no : ¬e.Overwrites r :=
      fun overwrites => taken (tracks.taken_of_overwrites sound overwrites)
    rw [IsLawful, IsLawful, same]
    exact (and_iff_left no).symm

end Tracks

/-- The ways to split a list with one more event: at that event, or later. -/
lemma forall_split_cons {P : List StoreEvent → StoreEvent → Prop} :
    (∀ before e' later, e :: events = before ++ e' :: later → P before e') ↔
      P [] e ∧ ∀ before e' later, events = before ++ e' :: later → P (e :: before) e' := by
  constructor
  · intro all
    refine ⟨all [] e events rfl, fun before e' later split => all (e :: before) e' later ?_⟩
    rw [split, List.cons_append]
  · rintro ⟨first, others⟩ before e' later split
    cases before with
    | nil =>
      cases split
      exact first
    | cons e before =>
      cases split
      exact others before e' later rfl

/-- Events keep the law exactly if none of them offers a different roster at a newest version. -/
lemma Tracks.through (tracks : r.Tracks k) (sound : ∀ e ∈ events, e.IsSound) :
    (∃ l, (r.through events).Tracks l) ∧
      ((r.through events).IsLawful ↔ r.IsLawful ∧
        ∀ before e later, events = before ++ e :: later → ¬e.Overwrites (r.through before)) := by
  induction events generalizing r k with
  | nil => exact ⟨⟨k, tracks⟩, by simp [Registry.through]⟩
  | cons e events ih =>
    obtain ⟨first, others⟩ := List.forall_mem_cons.1 sound
    obtain ⟨l, next⟩ := tracks.perform first
    obtain ⟨reached, law⟩ := ih next others
    refine ⟨reached, law.trans ?_⟩
    rw [tracks.isLawful_perform_iff first, and_assoc,
      forall_split_cons (P := fun before e => ¬e.Overwrites (r.through before))]
    rfl

/-- Without events that go past the registry, what is installed is up to date all along. -/
lemma Tracks.upToDate_through (tracks : r.Tracks k) (sound : ∀ e ∈ events, e.IsSound)
    (indirect : ∀ e ∈ events, ¬e.IsDirect) (current : r.UpToDate) :
    (r.through events).UpToDate := by
  induction events generalizing r k with
  | nil => exact current
  | cons e events ih =>
    obtain ⟨first, others⟩ := List.forall_mem_cons.1 sound
    obtain ⟨own, rest⟩ := List.forall_mem_cons.1 indirect
    obtain ⟨l, next⟩ := tracks.perform first
    exact ih next others rest (tracks.upToDate_perform first own current)

/-- Where a different roster is offered at the newest version by a call, what is installed is older
than that, or nothing is. -/
lemma StoreEvent.Overwrites.installed_lt (overwrites : e.Overwrites r) :
    e.IsDirect ∨ ∃ segment newest, (r.sink.loadLatest segment).value = .ok (some newest) ∧
      ∀ current, r.get? segment = some current → current.version < newest.version := by
  obtain ⟨now, segment, m, newest, offers, loaded, same, -⟩ := overwrites
  rw [or_iff_not_imp_left]
  intro indirect
  refine ⟨segment, newest, loaded, fun current held => same ▸ ?_⟩
  cases offers with
  | persist => exact absurd trivial indirect
  | install check => exact lt_of_refusal? (check current held)
  | apply held' _ higher =>
    rw [held'] at held
    cases held
    exact higher
  | applyEdit held' _ higher =>
    rw [held'] at held
    cases held
    exact higher

/-- A different roster of the installed version is an error, and changes nothing. -/
lemma perform_install_of_sameVersion {current : ReplicaSet} {me : InstanceId} {total : Nat}
    (clear : r.poisoned = false) (held : r.get? segment = some current)
    (same : m.version = current.version) (ne : m.toRoster ≠ current.toRoster) :
    (Call.install now segment m me total).perform r =
      (.error (.error (.content (.sameVersion m current))), r) := by
  have compared : m.compareTo current = .error (.sameVersion m current) := by
    rw [ReplicaSet.compareTo, if_neg ne, same, Version.compare, if_neg (lt_irrefl _), if_pos rfl]
  simp only [Call.perform, install, locked_of_clear clear, held, refusal?, compared]
  rfl

/-- Over a sink that started without records, records that share a version share a roster exactly if
no event offered a different roster at the newest version of a segment. A call does so only if the
registry has an older replica set installed, or none: if the newest one is installed and the lock can
be taken, a different roster of its version is an error and changes nothing. As long as nothing goes
past the registries, the only such calls are those that install a replica set where a registry has
none. -/
theorem one_roster_per_version_iff {path : Option String} {start : Sink}
    (opened : (Sink.ofPath path none).value = .ok start) (sound : ∀ e ∈ events, e.IsSound)
    (ran : through { sink := start } events = r) :
    ∃ records, r.sink.records = .ok records ∧
      ((∀ segment, OneRosterPerVersion segment records) ↔
        ∀ before e later, events = before ++ e :: later →
          ¬e.Overwrites (through { sink := start } before)) ∧
      (∀ e : StoreEvent, e.Overwrites r → e.IsDirect ∨
        ∃ segment newest, (r.sink.loadLatest segment).value = .ok (some newest) ∧
          ∀ current, r.get? segment = some current → current.version < newest.version) ∧
      (∀ now segment m me total current newest, r.poisoned = false →
        r.get? segment = some current → (r.sink.loadLatest segment).value = .ok (some newest) →
        current.toRoster = newest.toRoster → m.version = newest.version →
        m.toRoster ≠ newest.toRoster →
          (Call.install now segment m me total).perform r =
            (.error (.error (.content (.sameVersion m current))), r)) ∧
      ((∀ e ∈ events, ¬e.IsDirect) → ∀ e : StoreEvent, ¬e.IsDirect → e.Overwrites r →
        ∃ now segment m me total, e = .call (.install now segment m me total) ∧
          r.get? segment = none) := by
  subst ran
  have begun : Tracks { sink := start } {} := ⟨Sink.keeps_of_ofPath opened, nofun⟩
  obtain ⟨⟨k, tracks⟩, law⟩ := begun.through sound
  have lawful : IsLawful { sink := start } :=
    (Tracks.isLawful_iff begun.keeps).2 fun segment => nofun
  refine ⟨k.records, tracks.keeps.records_eq, ?_, fun _ overwrites => overwrites.installed_lt,
    ?_, ?_⟩
  · rw [← Tracks.isLawful_iff tracks.keeps, law]
    exact and_iff_right lawful
  · intro now segment m me total current newest clear held loaded eq same ne
    rw [← eq] at ne
    have level := same.trans (congrArg Roster.version eq).symm
    exact perform_install_of_sameVersion clear held level ne
  · intro indirect e call overwrites
    have current := begun.upToDate_through sound indirect nofun
    obtain ⟨now, segment, m, newest, offers, loaded, same, -⟩ := overwrites
    -- whatever is installed is the newest one, and not below it
    have none : ∀ held, (through { sink := start } events).get? segment = some held →
        ¬held.version < m.version := by
      intro held installed higher
      obtain ⟨n, loaded', eq⟩ := current segment held installed
      rw [loaded] at loaded'
      cases loaded'
      rw [same, ← congrArg Roster.version eq] at higher
      exact lt_irrefl _ higher
    cases offers with
    | persist => exact absurd trivial call
    | install check =>
      refine ⟨now, segment, m, _, _, rfl, Option.eq_none_iff_forall_ne_some.2 ?_⟩
      exact fun held installed => none held installed (lt_of_refusal? (check held installed))
    | apply installed _ higher => exact absurd higher (none _ installed)
    | applyEdit installed _ higher => exact absurd higher (none _ installed)

/-- A registry with the newest replica set installed takes no different roster of its version. -/
theorem one_roster_per_version_installed :
    ∃ (r : Registry) (m other : ReplicaSet) (records : List SnapshotRecord),
      through {} [.call (.install .epoch 1 m 1 3)] = r ∧ r.sink.records = .ok records ∧
      (∀ segment, OneRosterPerVersion segment records) ∧ other.version = m.version ∧
      (Call.install .epoch 1 other 1 3).perform r =
        (.error (.error (.content (.sameVersion other m))), r) := by
  let m : ReplicaSet := .ofRoster
    { version := ⟨1, 0⟩, primary := 1, secondaries := .ofList [2, 3] }
  let other : ReplicaSet := .ofRoster
    { version := ⟨1, 0⟩, primary := 1, secondaries := .ofList [2, 4] }
  have m_wf : m.WellFormed := by decide
  have opened : (Sink.ofPath none none).value = .ok .empty := rfl
  have sound : ∀ e ∈ [.call (.install .epoch 1 m 1 3)], StoreEvent.IsSound e := by
    rintro _ mem
    obtain rfl := List.mem_singleton.1 mem
    exact ⟨Instant.epoch_isValid, m_wf⟩
  let one : MemorySink := ⟨[.ofReplicaSet .epoch 1 m]⟩
  have holds : one.Holds 1 [m.toRoster] :=
    ⟨rfl, by simpa using m_wf, List.pairwise_singleton _ _⟩
  let r : Registry := (committed {} (.memory one) 1 m).raise .installsAccepted
  have ran : through {} [.call (.install .epoch 1 m 1 3)] = r := by
    have installed : (install {} .epoch 1 m 1 3).value = (.ok true, r) :=
      install_value rfl nofun rfl
    simp only [through, List.foldl, StoreEvent.perform, Call.perform, installed]
    rfl
  have sunk : r.sink = .memory one := rfl
  have loaded : one.loadLatest 1 = .ok (some m) := holds.loadLatest
  have newest : (r.sink.loadLatest 1).value = .ok (some m) := by
    simp only [sunk, Sink.loadLatest, loaded]
  obtain ⟨records, read, law, -, alarm, -⟩ := one_roster_per_version_iff opened sound ran
  refine ⟨r, m, other, records, ran, read, law.2 ?_, rfl, ?_⟩
  · rintro before e later split ⟨now, segment, n, k, offers, loaded, -⟩
    obtain ⟨rfl, -⟩ : before = [] ∧ later = [] := by
      have length := congrArg List.length split
      simp only [List.length_append, List.length_cons, List.length_nil] at length
      exact ⟨List.length_eq_zero_iff.1 (by omega), List.length_eq_zero_iff.1 (by omega)⟩
    cases loaded
  · exact alarm .epoch 1 other 1 3 m m rfl rfl newest rfl rfl (by decide)

/-- A registry that was created over an existing log takes a different roster of the newest version,
and the log holds both. -/
theorem two_rosters_of_one_version :
    ∃ (start : Sink) (m other : ReplicaSet) (records : List SnapshotRecord),
      (Sink.ofPath (some "log") none).value = .ok start ∧ m.WellFormed ∧ other.WellFormed ∧
      (through { sink := start }
        [.call (.install .epoch 1 m 1 3), .reopen,
          .call (.install .epoch 1 other 1 3)]).sink.records = .ok records ∧
      ∃ r ∈ recordsOf 1 records, ∃ k ∈ recordsOf 1 records, r.replicas = .ok m ∧
        k.replicas = .ok other ∧ m.version = other.version ∧ m.toRoster ≠ other.toRoster := by
  let m : ReplicaSet := .ofRoster
    { version := ⟨1, 0⟩, primary := 1, secondaries := .ofList [2, 3] }
  let other : ReplicaSet := .ofRoster
    { version := ⟨1, 0⟩, primary := 1, secondaries := .ofList [2, 4] }
  have m_wf : m.WellFormed := by decide
  have other_wf : other.WellFormed := by decide
  have begun : (Sink.file { path := "log" }).Keeps {} := FileSink.keeps_missing "log"
  let one : MemorySink := ⟨[.ofReplicaSet .epoch 1 m]⟩
  let two : MemorySink := ⟨[.ofReplicaSet .epoch 1 m, .ofReplicaSet .epoch 1 other]⟩
  have holds : one.Holds 1 [m.toRoster] :=
    ⟨rfl, by simpa using m_wf, List.pairwise_singleton _ _⟩
  have first : MemorySink.persist {} .epoch 1 m = .ok one := rfl
  have second : one.persist .epoch 1 other = .ok two :=
    holds.persist_eq_ok_iff.2 ⟨by rintro _ ⟨⟩; exact le_refl _, rfl⟩
  obtain ⟨s, persisted, keeps⟩ := begun.persist_of_ok Instant.epoch_isValid m_wf first
  obtain ⟨t, persisted', keeps'⟩ := keeps.persist_of_ok Instant.epoch_isValid other_wf second
  have installs : ∀ (r : Registry) (m : ReplicaSet) (sink : Sink), r.poisoned = false →
      r.get? 1 = none → (r.sink.persist .epoch 1 m).value = .ok sink →
        (StoreEvent.perform r (.call (.install .epoch 1 m 1 3))).sink = sink := by
    intro r m sink clear none persisted
    refine StoreEvent.Offers.sink_perform (.install ?_ clear) persisted
    rw [none]
    exact nofun
  have reopens : ∀ (r : Registry) (sink : Sink), r.sink.reopen = .ok sink →
      StoreEvent.perform r .reopen = { sink } := by
    intro r sink opened
    rw [StoreEvent.perform, opened]
  refine ⟨.file { path := "log" }, m, other, two.records, rfl, m_wf, other_wf, ?_, ?_⟩
  · have sunk := installs { sink := .file { path := "log" } } m s rfl rfl persisted
    simp only [through, List.foldl]
    rw [reopens _ s (by rw [sunk, keeps.reopen]), installs _ other t rfl rfl persisted']
    exact keeps'.records_eq
  · have decoded : (SnapshotRecord.ofReplicaSet .epoch 1 m).replicas = .ok m :=
      SnapshotRecord.replicas_ofReplicaSet .epoch 1 m_wf
    have decoded' : (SnapshotRecord.ofReplicaSet .epoch 1 other).replicas = .ok other :=
      SnapshotRecord.replicas_ofReplicaSet .epoch 1 other_wf
    exact ⟨_, List.mem_cons_self, _, List.mem_cons_of_mem _ List.mem_cons_self, decoded, decoded',
      rfl, by decide⟩

end Registry

end ReplicaQuorum
