import Mathlib.Order.Bounds.Basic
import ReplicaQuorum.Proofs.Store.Log
import ReplicaQuorum.Proofs.Store.Memory

/-!
# The newest version of a segment

A log that is opened gives the greatest version among the records of each segment. What is loaded
of a segment is its last record, which is another thing where a record stands above the last one.
-/

namespace ReplicaQuorum

variable {segment other : SegmentId} {version : Version} {records : List SnapshotRecord}
  {r : SnapshotRecord} {m : ReplicaSet} {now : Instant}

/-- The versions in the records of a segment. -/
def versionsOf (segment : SegmentId) (records : List SnapshotRecord) : Set Version :=
  {v | ∃ r ∈ recordsOf segment records, ∃ m, r.replicas = .ok m ∧ m.version = v}

/-- The newest version in the records of a segment, which is none if there are no records. -/
def IsNewest (segment : SegmentId) (records : List SnapshotRecord) : Option Version → Prop
  | none => recordsOf segment records = []
  | some v => IsGreatest (versionsOf segment records) v

/-- There is one newest version of a segment at most. -/
lemma IsNewest.unique {v w : Option Version} (first : IsNewest segment records v)
    (second : IsNewest segment records w) : v = w := by
  -- there is no version in no records
  have empty : recordsOf segment records = [] →
      ∀ v, ¬IsGreatest (versionsOf segment records) v := by
    rintro none v ⟨⟨r, mem, -⟩, -⟩
    rw [none] at mem
    cases mem
  cases v with
  | none =>
    cases w with
    | none => rfl
    | some w => exact absurd second (empty first w)
  | some v =>
    cases w with
    | none => exact absurd first (empty second v)
    | some w => exact congrArg some (IsGreatest.unique first second)

/-- The records of a segment come in the order of all records. -/
lemma recordsOf_append (segment : SegmentId) (records later : List SnapshotRecord) :
    recordsOf segment (records ++ later) = recordsOf segment records ++ recordsOf segment later :=
  List.filter_append ..

/-- A record adds its version to those of its segment. -/
lemma versionsOf_append_own (decoded : r.replicas = .ok m) :
    versionsOf r.segment (records ++ [r]) = insert m.version (versionsOf r.segment records) := by
  have last : recordsOf r.segment [r] = [r] := by simp [recordsOf]
  ext v
  simp only [versionsOf, recordsOf_append, last, List.mem_append, List.mem_singleton,
    Set.mem_ofPred_eq, Set.mem_insert_iff]
  constructor
  · rintro ⟨k, mem | rfl, n, held, rfl⟩
    · exact .inr ⟨k, mem, n, held, rfl⟩
    · rw [decoded] at held
      cases held
      exact .inl rfl
  · rintro (rfl | ⟨k, mem, n, held, rfl⟩)
    · exact ⟨r, .inr rfl, m, decoded, rfl⟩
    · exact ⟨k, .inl mem, n, held, rfl⟩

/-- A record of another segment adds nothing. -/
lemma recordsOf_append_of_ne (ne : r.segment ≠ segment) :
    recordsOf segment (records ++ [r]) = recordsOf segment records := by
  simp [recordsOf, ne]

/-- The record of a well formed replica set decodes to its roster, as nobody has seen it yet. -/
lemma SnapshotRecord.replicas_ofReplicaSet (now : Instant) (segment : SegmentId)
    (wf : m.WellFormed) :
    (SnapshotRecord.ofReplicaSet now segment m).replicas = .ok (.ofRoster m.toRoster) := by
  rw [replicas, ofReplicaSet, Content.decode_encode wf]

/-- The replica set of a segment is read from its last record. -/
lemma latestOf_eq_of_getLast? (last : (recordsOf segment records).getLast? = some r) :
    latestOf segment records = r.replicas.map some := by
  rw [latestOf, last]

namespace FileSink

variable {latest newest : IdMap Version} {before : List SnapshotRecord} {path : String}
  {log : List UInt8} {s t : FileSink}

/-- The newest version of a segment is the greater one of the known and the added one. -/
lemma get?_newest_self (latest : IdMap Version) (segment : SegmentId) (version : Version) :
    (FileSink.newest latest segment version).get? segment =
      some ((latest.get? segment).elim version (max version)) := by
  unfold FileSink.newest
  cases known : latest.get? segment with
  | none => exact IdMap.get?_insert_self
  | some v =>
    dsimp only [Option.elim]
    split
    · next below => rw [max_eq_left (le_of_lt below), IdMap.get?_insert_self]
    · next above => rw [max_eq_right (not_lt.1 above), known]

/-- A version of another segment makes no difference. -/
lemma get?_newest_other (latest : IdMap Version) (version : Version) (ne : other ≠ segment) :
    (FileSink.newest latest segment version).get? other = latest.get? other := by
  unfold FileSink.newest
  cases latest.get? segment with
  | none => exact IdMap.get?_insert.trans (if_neg ne)
  | some v =>
    dsimp only
    split
    · exact IdMap.get?_insert.trans (if_neg ne)
    · rfl

/-- Versions that were the newest ones of some records are so with one more record. -/
lemma isNewest_newest (known : ∀ segment, IsNewest segment before (latest.get? segment))
    (decoded : r.replicas = .ok m) (segment : SegmentId) :
    IsNewest segment (before ++ [r])
      ((FileSink.newest latest r.segment m.version).get? segment) := by
  by_cases own : segment = r.segment
  · subst own
    rw [get?_newest_self, IsNewest, versionsOf_append_own decoded]
    have held := known r.segment
    cases newest : latest.get? r.segment with
    | none =>
      rw [newest] at held
      have none : versionsOf r.segment before = ∅ := by
        ext v
        simp [versionsOf, show recordsOf r.segment before = [] from held]
      rw [none, insert_empty_eq]
      exact isGreatest_singleton
    | some v =>
      rw [newest] at held
      exact IsGreatest.insert m.version held
  · rw [get?_newest_other _ _ own]
    have same : recordsOf segment (before ++ [r]) = recordsOf segment before :=
      recordsOf_append_of_ne (Ne.symm own)
    have held := known segment
    unfold IsNewest versionsOf at held ⊢
    rw [same]
    exact held

/-- All records decode. -/
def Decode (records : List SnapshotRecord) : Prop :=
  ∀ r ∈ records, ∃ m, r.replicas = .ok m

/-- Records that can all be decoded have newest versions. -/
lemma newestOf_isOk (decode : Decode records) (latest : IdMap Version) :
    ∃ newest, newestOf records latest = .ok newest := by
  induction records generalizing latest with
  | nil => exact ⟨latest, rfl⟩
  | cons r records ih =>
    obtain ⟨⟨m, decoded⟩, others⟩ := List.forall_mem_cons.1 decode
    obtain ⟨newest, eq⟩ := ih others (FileSink.newest latest r.segment m.version)
    refine ⟨newest, ?_⟩
    rw [newestOf, decoded]
    exact eq

/-- The newest versions among some records are those of the records, which all decode. -/
lemma newestOf_spec (known : ∀ segment, IsNewest segment before (latest.get? segment))
    (eq : newestOf records latest = .ok newest) :
    Decode records ∧ ∀ segment, IsNewest segment (before ++ records) (newest.get? segment) := by
  induction records generalizing before latest with
  | nil =>
    cases eq
    rw [List.append_nil]
    exact ⟨nofun, known⟩
  | cons r records ih =>
    rw [newestOf] at eq
    cases decoded : r.replicas with
    | error e =>
      rw [decoded] at eq
      cases eq
    | ok m =>
      rw [decoded] at eq
      obtain ⟨decode, spec⟩ := ih (isNewest_newest known decoded) eq
      rw [List.append_assoc] at spec
      exact ⟨List.forall_mem_cons.2 ⟨⟨m, decoded⟩, decode⟩, spec⟩

/-- A sink is opened over a log that is read if its records can be decoded. -/
lemma ofFile_of_records (read : (LogFile.records path log).value = .ok records) :
    (ofFile path (some log)).value =
      (newestOf records ∅).map fun latest => { path, log, latest } := by
  simp only [ofFile, read]
  rfl

/-! ## What a sink knows of its log -/

/-- The log holds the records, all of them decode, and the sink has the newest version of each
segment. -/
structure Knows (s : FileSink) (records : List SnapshotRecord) : Prop where
  read : (LogFile.records s.path s.log).value = .ok records
  decode : Decode records
  newest : ∀ segment, IsNewest segment records (s.latest.get? segment)

/-- The sink over a missing file knows that there are no records. -/
lemma knows_missing (path : String) : Knows { path } [] :=
  ⟨rfl, nofun, fun _ => rfl⟩

/-- A sink can be opened over a log exactly if it knows the log, whose records are then read. -/
theorem ofFile_eq_ok_iff :
    (ofFile path (some log)).value = .ok s ↔
      s.path = path ∧ s.log = log ∧ ∃ records, s.Knows records := by
  have start : ∀ segment, IsNewest segment [] ((∅ : IdMap Version).get? segment) := fun _ => rfl
  constructor
  · intro opened
    cases read : (LogFile.records path log).value with
    | error e =>
      simp only [ofFile, read] at opened
      cases opened
    | ok records =>
      rw [ofFile_of_records read] at opened
      cases found : newestOf records ∅ with
      | error e =>
        rw [found] at opened
        cases opened
      | ok latest =>
        rw [found] at opened
        cases opened
        obtain ⟨decode, newest⟩ := newestOf_spec start found
        exact ⟨rfl, rfl, records, read, decode, newest⟩
  · rintro ⟨rfl, rfl, records, knows⟩
    obtain ⟨latest, found⟩ := newestOf_isOk knows.decode ∅
    have same : latest = s.latest :=
      IdMap.ext fun segment => ((newestOf_spec start found).2 segment).unique (knows.newest segment)
    rw [ofFile_of_records knows.read, found, same]
    rfl

/-- A log that is opened again gives the same sink. -/
lemma Knows.reopen (knows : s.Knows records) : (ofFile s.path (some s.log)).value = .ok s :=
  ofFile_eq_ok_iff.2 ⟨rfl, rfl, records, knows⟩

/-- The sink loads the last one of the records that it knows. -/
lemma Knows.loadLatest (knows : s.Knows records) (segment : SegmentId) :
    (s.loadLatest segment).value = latestOf segment records := by
  simp only [FileSink.loadLatest, knows.read]
  rfl

/-- The replica set of the last record is loaded of its segment. -/
lemma Knows.loadLatest_last (knows : s.Knows (records ++ [.ofReplicaSet now segment m]))
    (wf : m.WellFormed) : (s.loadLatest segment).value = .ok (some (.ofRoster m.toRoster)) := by
  have last : (recordsOf segment (records ++ [.ofReplicaSet now segment m])).getLast? =
      some (.ofReplicaSet now segment m) := by
    rw [recordsOf_append_own]
    exact List.getLast?_concat
  rw [knows.loadLatest, latestOf_eq_of_getLast? last,
    SnapshotRecord.replicas_ofReplicaSet now segment wf]
  rfl

/-- A sink takes a replica set that is not below the newest version of its segment. -/
lemma persist_eq_ok_iff :
    (s.persist now segment m).value = .ok t ↔
      (∀ v ∈ s.latest.get? segment, v ≤ m.version) ∧
      t = { s with
        log := LogFile.append s.log (.ofReplicaSet now segment m)
        latest := s.latest.insert segment m.version } := by
  have taken : refuseStale segment (s.latest.get? segment) m.version = .ok () ↔
      ∀ v ∈ s.latest.get? segment, v ≤ m.version := refuseStale_eq_ok_iff
  rw [← taken, persist]
  cases refuseStale segment (s.latest.get? segment) m.version with
  | error e => simp
  | ok _ => simp [eq_comm]

/-- The log with one more record, whose version is given, and what is found in it when it is
opened. -/
def extend (s : FileSink) (r : SnapshotRecord) (version : Version) : FileSink :=
  { s with
    log := LogFile.append s.log r
    latest := FileSink.newest s.latest r.segment version }

/-- Whatever record is added to the log is known once the log is opened again. -/
lemma Knows.extend (knows : s.Knows records) (continuable : LogFile.IsContinuable s.log)
    (sound : r.IsSound) (decoded : r.replicas = .ok m) :
    (s.extend r m.version).Knows (records ++ [r]) where
  read := by
    have read := LogFile.records_append continuable knows.read sound
    exact congrArg Logged.value read
  decode k mem := by
    rcases List.mem_append.1 mem with mem | mem
    · exact knows.decode k mem
    · obtain rfl := List.mem_singleton.1 mem
      exact ⟨m, decoded⟩
  newest := isNewest_newest knows.newest decoded

/-- What a sink takes is the newest version, so it knows what a reader of its log would find. -/
lemma eq_extend_of_persist (persisted : (s.persist now segment m).value = .ok t) :
    t = s.extend (.ofReplicaSet now segment m) m.version := by
  obtain ⟨above, rfl⟩ := persist_eq_ok_iff.1 persisted
  have same : s.latest.insert segment m.version = FileSink.newest s.latest segment m.version := by
    ext other
    by_cases own : other = segment
    · subst own
      rw [IdMap.get?_insert_self, get?_newest_self]
      cases known : s.latest.get? other with
      | none => rfl
      | some v => rw [Option.elim, max_eq_left (above v known)]
    · rw [IdMap.get?_insert, if_neg own, get?_newest_other _ _ own]
  rw [same]
  rfl

/-- A sink that has persisted a replica set knows one record more. -/
lemma Knows.persist (knows : s.Knows records) (continuable : LogFile.IsContinuable s.log)
    (valid : now.IsValid) (wf : m.WellFormed)
    (persisted : (s.persist now segment m).value = .ok t) :
    t.Knows (records ++ [.ofReplicaSet now segment m]) := by
  have known := knows.extend continuable (SnapshotRecord.isSound_ofReplicaSet valid)
    (SnapshotRecord.replicas_ofReplicaSet now segment wf)
  rw [eq_extend_of_persist persisted]
  exact known

end FileSink

end ReplicaQuorum
