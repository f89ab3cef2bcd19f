import ReplicaQuorum.Proofs.Store.Newest

/-!
# Persisting to an accepted log

A sink that was opened over a log adds its records to the end of the file, whatever stands there.
The log stays readable exactly if nothing but spaces of the format stands on its open line.
Otherwise the first record is written onto a line that is not empty, and no later read of the log
succeeds.
-/

namespace ReplicaQuorum.FileSink

variable {path : String} {file : Option (List UInt8)} {s t : FileSink}
  {records : List SnapshotRecord}

/-- A replica set to persist for a segment, and when. -/
structure Entry where
  now : Instant
  segment : SegmentId
  replicas : ReplicaSet

namespace Entry

/-- The record that is persisted. -/
def record (e : Entry) : SnapshotRecord :=
  .ofReplicaSet e.now e.segment e.replicas

/-- A clock shows the instant, and the replica set is well formed, as all are. -/
structure IsSound (e : Entry) : Prop where
  dated : e.now.IsValid
  wellFormed : e.replicas.WellFormed

end Entry

variable {e : Entry} {entries : List Entry}

/-- Persists replica sets one after the other, all of which have to be taken. -/
def persistAll (s : FileSink) : List Entry → Except StoreError FileSink
  | [] => .ok s
  | e :: entries => do
    let t ← (s.persist e.now e.segment e.replicas).value
    t.persistAll entries

/-- The entries are persisted one after the other. -/
lemma persistAll_cons_eq_ok_iff :
    s.persistAll (e :: entries) = .ok t ↔
      ∃ u, (s.persist e.now e.segment e.replicas).value = .ok u ∧ u.persistAll entries = .ok t := by
  rw [persistAll]
  cases (s.persist e.now e.segment e.replicas).value with
  | error _ => simp [bind, Except.bind]
  | ok u => simp [bind, Except.bind]

/-- What was persisted stands behind the log in the file. -/
lemma log_of_persistAll (persisted : s.persistAll entries = .ok t) :
    t.path = s.path ∧ t.log = LogFile.appendAll s.log (entries.map Entry.record) := by
  induction entries generalizing s with
  | nil =>
    cases persisted
    exact ⟨rfl, rfl⟩
  | cons e entries ih =>
    obtain ⟨u, first, later⟩ := persistAll_cons_eq_ok_iff.1 persisted
    obtain ⟨-, rfl⟩ := persist_eq_ok_iff.1 first
    exact ih later

/-- A sink over a log without an open line, or with one of spaces, knows whatever it persists. -/
lemma Knows.persistAll (knows : s.Knows records) (continuable : LogFile.IsContinuable s.log)
    (sound : ∀ e ∈ entries, e.IsSound) (persisted : s.persistAll entries = .ok t) :
    t.Knows (records ++ entries.map Entry.record) := by
  induction entries generalizing s records with
  | nil =>
    cases persisted
    rw [List.map_nil, List.append_nil]
    exact knows
  | cons e entries ih =>
    obtain ⟨u, first, later⟩ := persistAll_cons_eq_ok_iff.1 persisted
    obtain ⟨own, others⟩ := List.forall_mem_cons.1 sound
    have known := knows.persist continuable own.dated own.wellFormed first
    obtain ⟨-, rfl⟩ := persist_eq_ok_iff.1 first
    have open_line := LogFile.openLine_append s.log e.record
    have all := ih known (LogFile.isContinuable_of_openLine_eq_nil open_line) others later
    rwa [List.append_assoc] at all

/-- A sink that was opened knows the records of its log. -/
lemma exists_knows (opened : (ofFile path file).value = .ok s) :
    s.path = path ∧ ∃ records, s.Knows records := by
  cases file with
  | none =>
    cases opened
    exact ⟨rfl, [], knows_missing path⟩
  | some log =>
    obtain ⟨same, -, known⟩ := ofFile_eq_ok_iff.1 opened
    exact ⟨same, known⟩

/-- What is persisted to a log that was opened is read after what the log held exactly if nothing
but spaces stands on the open line. Then the log opens again and the last replica set is loaded;
otherwise the log neither opens again nor is anything loaded from it. -/
theorem records_kept_iff {last : Entry} (opened : (ofFile path file).value = .ok s)
    (sound : ∀ e ∈ entries ++ [last], e.IsSound)
    (persisted : s.persistAll (entries ++ [last]) = .ok t) :
    ∃ before, (LogFile.records path s.log).value = .ok before ∧
      ((LogFile.records path t.log).value = .ok (before ++ (entries ++ [last]).map Entry.record) ↔
        LogFile.IsContinuable s.log) ∧
      (LogFile.IsContinuable s.log →
        (ofFile path (some t.log)).value = .ok t ∧
        (t.loadLatest last.segment).value = .ok (some (.ofRoster last.replicas.toRoster))) ∧
      (¬LogFile.IsContinuable s.log → ∃ reason damage,
        damage = StoreError.malformedRecord (LogFile.lines s.log).length reason ∧
        (LogFile.records path t.log).value = .error damage ∧
        (ofFile path (some t.log)).value = .error damage ∧
        ∀ segment, (t.loadLatest segment).value = .error damage) := by
  obtain ⟨rfl, before, knows⟩ := exists_knows opened
  obtain ⟨same, log⟩ := log_of_persistAll persisted
  have kept : LogFile.IsContinuable s.log →
      t.Knows (before ++ (entries ++ [last]).map Entry.record) :=
    fun continuable => knows.persistAll continuable sound persisted
  have damaged : ¬LogFile.IsContinuable s.log → LogFile.records s.path t.log =
      ⟨.error (.malformedRecord (LogFile.lines s.log).length LogFile.noRecord), []⟩ := by
    intro held
    have filled : entries ++ [last] ≠ [] := List.concat_ne_nil last entries
    obtain ⟨first, later, split⟩ := List.exists_cons_of_ne_nil filled
    rw [log, split, List.map_cons]
    exact LogFile.records_appendAll_of_not_isContinuable held knows.read _ _
  refine ⟨before, knows.read, ⟨?_, ?_⟩, ?_, ?_⟩
  · intro read
    by_contra held
    rw [damaged held] at read
    cases read
  · intro continuable
    rw [← same]
    exact (kept continuable).read
  · intro continuable
    have known := kept continuable
    refine ⟨same ▸ known.reopen, ?_⟩
    rw [List.map_append, ← List.append_assoc] at known
    exact known.loadLatest_last (sound last (by simp)).wellFormed
  · intro held
    have read := damaged held
    refine ⟨_, _, rfl, by rw [read], ?_, fun segment => ?_⟩
    · simp only [ofFile, read]
      rfl
    · rw [loadLatest, same, read]
      rfl

/-- A file with a space in it takes records. -/
theorem records_kept_space :
    ∃ (s t : FileSink) (e : Entry), (ofFile "log" (some [0x20])).value = .ok s ∧ e.IsSound ∧
      s.persistAll [e] = .ok t ∧ LogFile.IsContinuable s.log ∧
      (LogFile.records "log" t.log).value = .ok [e.record] ∧
      (ofFile "log" (some t.log)).value = .ok t := by
  let s : FileSink := { path := "log", log := [0x20] }
  let first : ReplicaSet := .ofRoster
    { version := ⟨1, 0⟩, primary := 1, secondaries := .ofList [2, 3] }
  let e : Entry := ⟨.epoch, 1, first⟩
  have sound : e.IsSound := ⟨Instant.epoch_isValid, by decide⟩
  have continuable : LogFile.IsContinuable [0x20] := ⟨[' '], rfl, List.forall_mem_singleton.2 rfl⟩
  have lines : LogFile.lines [0x20] = [.blank] := by
    have none : LogFile.closed [0x20] = [] := LogFile.closed_eq_nil (by decide)
    have held := continuable.ofBytes_openLine
    rw [LogFile.lines_eq_closed, none, held, if_neg (by decide), List.nil_append]
  have read : (LogFile.records "log" [0x20]).value = .ok [] := by
    rw [LogFile.records, lines]
    rfl
  have opened : (ofFile "log" (some [0x20])).value = .ok s := ofFile_of_records read
  obtain ⟨t, persisted⟩ : ∃ t, s.persistAll ([] ++ [e]) = .ok t := ⟨_, rfl⟩
  obtain ⟨before, known, kept, reopens, -⟩ :=
    records_kept_iff opened (List.forall_mem_singleton.2 sound) persisted
  rw [show (LogFile.records "log" s.log).value = .ok [] from read] at known
  cases known
  exact ⟨s, t, e, opened, sound, persisted, continuable, kept.2 continuable,
    (reopens continuable).1⟩

/-- A log whose last record has no line feed is opened and takes another record, and then neither of
them is read. -/
theorem record_lost_without_lineFeed :
    ∃ (log : List UInt8) (s t : FileSink) (first second : Entry),
      (ofFile "log" (some log)).value = .ok s ∧ first.IsSound ∧ second.IsSound ∧
      (LogFile.records "log" log).value = .ok [first.record] ∧
      (s.persist second.now second.segment second.replicas).value = .ok t ∧
      (LogFile.records "log" t.log).value ≠ .ok [first.record, second.record] ∧
      (∀ u, (ofFile "log" (some t.log)).value ≠ .ok u) ∧
      (t.loadLatest second.segment).value ≠ .ok (some second.replicas) := by
  let first : Entry := ⟨.epoch, 1, .ofRoster
    { version := ⟨1, 0⟩, primary := 1, secondaries := .ofList [2, 3] }⟩
  let second : Entry := ⟨.epoch, 1, .ofRoster
    { version := ⟨1, 1⟩, primary := 1, secondaries := .ofList [2], inactive := .ofList [3] }⟩
  have first_sound : first.IsSound := ⟨Instant.epoch_isValid, by decide⟩
  have second_sound : second.IsSound := ⟨Instant.epoch_isValid, by decide⟩
  have sound : first.record.IsSound := SnapshotRecord.isSound_ofReplicaSet Instant.epoch_isValid
  let log := LogFile.bytesOf first.record
  have lines : LogFile.lines log = [.intact first.record] := LogFile.lines_bytesOf sound
  have read : (LogFile.records "log" log).value = .ok [first.record] := by
    rw [LogFile.records, lines]
    rfl
  have held : ¬LogFile.IsContinuable log := by
    intro continuable
    have blank := continuable.filterMap_lines
    rw [lines, LogFile.closed_eq_nil (LogFile.lineFeed_notMem_bytesOf _)] at blank
    cases blank
  have decoded : first.record.replicas = .ok first.replicas :=
    SnapshotRecord.replicas_ofReplicaSet _ _ first_sound.wellFormed
  let s : FileSink := { path := "log", log, latest := FileSink.newest ∅ 1 ⟨1, 0⟩ }
  have opened : (ofFile "log" (some log)).value = .ok s := by
    rw [ofFile_of_records read, newestOf, decoded]
    rfl
  obtain ⟨t, persisted⟩ : ∃ t,
      (s.persist second.now second.segment second.replicas).value = .ok t := ⟨_, rfl⟩
  have damaged : LogFile.records "log" t.log =
      ⟨.error (.malformedRecord 1 LogFile.noRecord), []⟩ := by
    obtain ⟨-, rfl⟩ := persist_eq_ok_iff.1 persisted
    have spoiled := LogFile.records_appendAll_of_not_isContinuable held read second.record []
    rwa [lines] at spoiled
  have path : t.path = "log" := by
    obtain ⟨-, rfl⟩ := persist_eq_ok_iff.1 persisted
    rfl
  refine ⟨log, s, t, first, second, opened, first_sound, second_sound, read, persisted, ?_, ?_, ?_⟩
  · intro read
    rw [damaged] at read
    cases read
  · intro u reopened
    simp only [ofFile, damaged] at reopened
    cases reopened
  · intro loaded
    rw [loadLatest, path, damaged] at loaded
    cases loaded

end ReplicaQuorum.FileSink
