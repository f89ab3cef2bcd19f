import ReplicaQuorum.Proofs.Content.RoundTrip
import ReplicaQuorum.Proofs.Version
import ReplicaQuorum.Store.Sink

/-!
# Records in memory

What was persisted for a segment is a list of well formed rosters whose versions never decrease: a
sink takes no older replica set, and every record reads back as the roster that was persisted. The
newest replica set of the segment is the last one of them.
-/

namespace ReplicaQuorum

variable {segment other : SegmentId} {now : Instant} {m : ReplicaSet}

/-- Only a version below the persisted one is refused. -/
lemma refuseStale_eq_ok_iff {persisted : Option Version} {offered : Version} :
    refuseStale segment persisted offered = .ok () ↔ ∀ v ∈ persisted, v ≤ offered := by
  cases persisted with
  | none => simp [refuseStale]
  | some v =>
    by_cases stale : offered < v
    · simp [refuseStale, stale]
    · simp [refuseStale, stale, not_lt.1 stale]

/-- The record of a segment is its last one. -/
lemma recordsOf_append_own (records : List SnapshotRecord) :
    recordsOf segment (records ++ [.ofReplicaSet now segment m]) =
      recordsOf segment records ++ [.ofReplicaSet now segment m] := by
  simp [recordsOf, SnapshotRecord.ofReplicaSet]

/-- The record of another segment makes no difference. -/
lemma recordsOf_append_other (records : List SnapshotRecord) (ne : other ≠ segment) :
    recordsOf segment (records ++ [.ofReplicaSet now other m]) = recordsOf segment records := by
  simp [recordsOf, SnapshotRecord.ofReplicaSet, ne]

namespace MemorySink

variable {s t : MemorySink} {rosters : List Roster}

/-- Whether a replica set is taken depends on the records of its segment only. -/
lemma persist_own (same : recordsOf segment s.records = recordsOf segment t.records) :
    (∃ e, s.persist now segment m = .error e ∧ t.persist now segment m = .error e) ∨
      s.persist now segment m = .ok ⟨s.records ++ [.ofReplicaSet now segment m]⟩ ∧
        t.persist now segment m = .ok ⟨t.records ++ [.ofReplicaSet now segment m]⟩ := by
  have latest : latestOf segment s.records = latestOf segment t.records := by
    rw [latestOf, latestOf, same]
  rw [persist, persist, latest]
  simp only [bind, Except.bind]
  cases latestOf segment t.records with
  | error e => exact .inl ⟨e, rfl, rfl⟩
  | ok newest =>
    dsimp only
    cases refuseStale segment (newest.map (·.version)) m.version with
    | error e => exact .inl ⟨e, rfl, rfl⟩
    | ok _ => exact .inr ⟨rfl, rfl⟩

/-- What is taken comes after the other records. -/
lemma eq_of_persist (persisted : s.persist now segment m = .ok t) :
    t = ⟨s.records ++ [.ofReplicaSet now segment m]⟩ := by
  rcases persist_own (s := s) rfl with ⟨e, failed, -⟩ | ⟨taken, -⟩
  · rw [failed] at persisted
    cases persisted
  · rw [taken] at persisted
    cases persisted
    rfl

/-- The rosters were persisted for the segment, oldest first. -/
structure Holds (s : MemorySink) (segment : SegmentId) (rosters : List Roster) : Prop where
  contents : (recordsOf segment s.records).map (·.content) = rosters.map Content.encode
  wellFormed : ∀ r ∈ rosters, r.WellFormed
  ascending : rosters.Pairwise (·.version ≤ ·.version)

/-- A sink to which only well formed replica sets were persisted. -/
inductive Written : MemorySink → Prop where
  | empty : Written {}
  | persist {s t : MemorySink} {now : Instant} {segment : SegmentId} {m : ReplicaSet} :
    Written s → m.WellFormed → s.persist now segment m = .ok t → Written t

/-- What is loaded of a segment is the last one of its rosters. -/
lemma Holds.loadLatest (holds : s.Holds segment rosters) :
    s.loadLatest segment = .ok (rosters.getLast?.map .ofRoster) := by
  have last : (recordsOf segment s.records).getLast?.map (·.content)
      = rosters.getLast?.map Content.encode := by
    rw [← List.getLast?_map, holds.contents, List.getLast?_map]
  -- there is a last record exactly if there is a last roster
  rw [MemorySink.loadLatest, latestOf]
  cases newest : rosters.getLast? with
  | none =>
    rw [newest, Option.map_none, Option.map_eq_none_iff] at last
    rw [last]
    rfl
  | some r =>
    rw [newest, Option.map_some, Option.map_eq_some_iff] at last
    obtain ⟨record, last, content⟩ := last
    have wf : r.WellFormed := holds.wellFormed r (List.mem_of_getLast? newest)
    rw [last]
    simp only [SnapshotRecord.replicas, content, Content.decode_encode wf]
    rfl

/-- A sink takes a replica set that is not below the newest one of its segment. -/
lemma Holds.persist_eq_ok_iff (holds : s.Holds segment rosters) :
    s.persist now segment m = .ok t ↔
      (∀ r ∈ rosters.getLast?, r.version ≤ m.version) ∧
      t = ⟨s.records ++ [.ofReplicaSet now segment m]⟩ := by
  have latest : latestOf segment s.records = .ok (rosters.getLast?.map .ofRoster) :=
    holds.loadLatest
  have check : refuseStale segment ((rosters.getLast?.map ReplicaSet.ofRoster).map (·.version))
      m.version = .ok () ↔ ∀ r ∈ rosters.getLast?, r.version ≤ m.version := by
    rw [refuseStale_eq_ok_iff]
    simp [ReplicaSet.ofRoster]
  rw [MemorySink.persist, latest, ← check]
  simp only [bind, Except.bind]
  cases refuseStale segment ((rosters.getLast?.map ReplicaSet.ofRoster).map (·.version))
      m.version with
  | error e => simp
  | ok _ => simp [eq_comm]

/-- No version stands above the last one of versions that never decrease. -/
lemma version_le_of_getLast? {r last : Roster}
    (ascending : rosters.Pairwise (·.version ≤ ·.version)) (newest : rosters.getLast? = some last)
    (mem : r ∈ rosters) : r.version ≤ last.version := by
  obtain rfl : rosters.getLast (List.ne_nil_of_mem mem) = last :=
    Option.some.inj ((List.getLast?_eq_some_getLast _).symm.trans newest)
  exact ascending.rel_getLast_of_rel_getLast_getLast mem (le_refl _)

/-- A replica set that is persisted becomes the last one of its segment. -/
lemma Holds.append (holds : s.Holds segment rosters) (wf : m.WellFormed)
    (above : ∀ r ∈ rosters.getLast?, r.version ≤ m.version) :
    Holds ⟨s.records ++ [.ofReplicaSet now segment m]⟩ segment (rosters ++ [m.toRoster]) where
  contents := by
    rw [recordsOf_append_own, List.map_append, List.map_append, holds.contents]
    rfl
  wellFormed r mem := by
    rcases List.mem_append.1 mem with mem | mem
    · exact holds.wellFormed r mem
    · rw [List.mem_singleton.1 mem]
      exact wf
  ascending := by
    refine List.pairwise_append.2 ⟨holds.ascending, List.pairwise_singleton _ _, ?_⟩
    intro r mem k memLast
    obtain rfl := List.mem_singleton.1 memLast
    have last : rosters.getLast? = some (rosters.getLast (List.ne_nil_of_mem mem)) :=
      List.getLast?_eq_some_getLast _
    exact (version_le_of_getLast? holds.ascending last mem).trans (above _ last)

/-- What is persisted for a segment leaves the others alone. -/
lemma Holds.append_other (holds : s.Holds other rosters) (ne : segment ≠ other) :
    Holds ⟨s.records ++ [.ofReplicaSet now segment m]⟩ other rosters where
  contents := by
    rw [recordsOf_append_other _ ne, holds.contents]
  wellFormed := holds.wellFormed
  ascending := holds.ascending

/-- The records of a segment decode to its rosters. -/
lemma Holds.replicas_iff (holds : s.Holds segment rosters) :
    (∃ r ∈ recordsOf segment s.records, r.replicas = .ok m) ↔ ∃ r ∈ rosters, m = .ofRoster r := by
  have contents : ∀ c, (∃ r ∈ recordsOf segment s.records, r.content = c) ↔
      ∃ r ∈ rosters, Content.encode r = c := by
    intro c
    have mem := congrArg (c ∈ ·) holds.contents
    simpa only [List.mem_map, eq_iff_iff] using mem
  constructor
  · rintro ⟨r, mem, decoded⟩
    obtain ⟨roster, memRosters, content⟩ := (contents r.content).1 ⟨r, mem, rfl⟩
    rw [SnapshotRecord.replicas, ← content,
      Content.decode_encode (holds.wellFormed roster memRosters)] at decoded
    cases decoded
    exact ⟨roster, memRosters, rfl⟩
  · rintro ⟨roster, memRosters, rfl⟩
    obtain ⟨r, mem, content⟩ := (contents (Content.encode roster)).2 ⟨roster, memRosters, rfl⟩
    refine ⟨r, mem, ?_⟩
    rw [SnapshotRecord.replicas, content,
      Content.decode_encode (holds.wellFormed roster memRosters)]

/-- A written sink holds rosters for every segment. -/
theorem Written.holds (written : s.Written) (segment : SegmentId) :
    ∃ rosters, s.Holds segment rosters := by
  induction written generalizing segment with
  | empty => exact ⟨[], rfl, nofun, .nil⟩
  | @persist s t now own m _ wf persisted ih =>
    obtain ⟨mine, holds⟩ := ih own
    obtain ⟨above, rfl⟩ := holds.persist_eq_ok_iff.1 persisted
    by_cases eq : own = segment
    · subst eq
      exact ⟨_, holds.append wf above⟩
    · obtain ⟨others, holds⟩ := ih segment
      exact ⟨others, holds.append_other eq⟩

/-- What a written sink has of a segment is well formed, and nobody has seen it yet. -/
lemma Written.wellFormed_of_loadLatest (written : s.Written)
    (loaded : s.loadLatest segment = .ok (some m)) : m.WellFormed ∧ m = .ofRoster m.toRoster := by
  obtain ⟨rosters, holds⟩ := written.holds segment
  rw [holds.loadLatest, Except.ok.injEq, Option.map_eq_some_iff] at loaded
  obtain ⟨r, newest, rfl⟩ := loaded
  exact ⟨holds.wellFormed r (List.mem_of_getLast? newest), rfl⟩

/-- A replica set that is persisted is the newest one of its segment from then on, and not below
the one before it. -/
lemma Written.loadLatest_persist (written : s.Written) (wf : m.WellFormed)
    (persisted : s.persist now segment m = .ok t) :
    t.loadLatest segment = .ok (some (.ofRoster m.toRoster)) ∧
    (∀ k, s.loadLatest segment = .ok (some k) → k.version ≤ m.version) := by
  obtain ⟨rosters, holds⟩ := written.holds segment
  obtain ⟨above, rfl⟩ := holds.persist_eq_ok_iff.1 persisted
  constructor
  · rw [(holds.append wf above).loadLatest, List.getLast?_append]
    rfl
  · intro k loaded
    rw [holds.loadLatest, Except.ok.injEq, Option.map_eq_some_iff] at loaded
    obtain ⟨r, newest, rfl⟩ := loaded
    exact above r newest

/-- What is persisted for a segment is not loaded of another one. -/
lemma Written.loadLatest_persist_other (written : s.Written)
    (persisted : s.persist now segment m = .ok t) (ne : segment ≠ other) :
    t.loadLatest other = s.loadLatest other := by
  obtain ⟨rosters, holds⟩ := written.holds segment
  obtain ⟨-, rfl⟩ := holds.persist_eq_ok_iff.1 persisted
  rw [loadLatest, latestOf, recordsOf_append_other _ ne]
  rfl

/-- The versions in the records of a segment never decrease. -/
theorem Written.ascending (written : s.Written) (segment : SegmentId) :
    (recordsOf segment s.records).Pairwise fun earlier later => ∃ m n,
      earlier.replicas = .ok m ∧ later.replicas = .ok n ∧ m.version ≤ n.version := by
  obtain ⟨rosters, holds⟩ := written.holds segment
  have decoded : (rosters.map Content.encode).Pairwise fun earlier later => ∃ m n,
      Content.decode earlier = .ok m ∧ Content.decode later = .ok n ∧ m.version ≤ n.version := by
    refine List.pairwise_map.2 (holds.ascending.imp_of_mem ?_)
    intro earlier later memEarlier memLater le
    exact ⟨_, _, Content.decode_encode (holds.wellFormed _ memEarlier),
      Content.decode_encode (holds.wellFormed _ memLater), le⟩
  rw [← holds.contents] at decoded
  refine (List.pairwise_map.1 decoded).imp ?_
  rintro earlier later ⟨m, n, first, second, le⟩
  refine ⟨m, n, ?_, ?_, le⟩
  · rw [SnapshotRecord.replicas, first]
  · rw [SnapshotRecord.replicas, second]

end MemorySink

end ReplicaQuorum
