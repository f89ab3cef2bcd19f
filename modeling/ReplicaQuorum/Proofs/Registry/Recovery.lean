import ReplicaQuorum.Proofs.Registry.Latest
import ReplicaQuorum.Proofs.Store.Newest

/-!
# Recovering from a log

A registry recovers the last record of a segment. A sink that is opened takes the greatest version
among the records for the newest one, so the two agree exactly if no record of the segment stands
above its last one, as they do again once the sink has persisted something for the segment.
-/

namespace ReplicaQuorum.Registry

variable {path : String} {log : List UInt8} {s : FileSink} {r : Registry}

/-- Over a log that is opened, the loaded replica set of a segment is that of its last record, and a
registry recovers it unless it is poisoned. It is never above the newest version that the sink
found, and below it exactly if the segment has a record above its last one. Whatever the sink
persists for a segment is both loaded and the newest one. -/
theorem recovers_newest_iff (opened : (FileSink.ofFile path (some log)).value = .ok s)
    (sunk : r.sink = .file s) (segment : SegmentId) :
    ∃ records, (LogFile.records path log).value = .ok records ∧
      IsNewest segment records (s.latest.get? segment) ∧
      ((recordsOf segment records = [] ∧ (s.loadLatest segment).value = .ok none ∧
          (r.poisoned = false → (r.recover segment).value = (.ok none, r))) ∨
        ∃ m newest, s.latest.get? segment = some newest ∧
          (s.loadLatest segment).value = .ok (some m) ∧
          (r.poisoned = false →
            (r.recover segment).value = (.ok (some m), r.setInstalled segment m)) ∧
          m.version ≤ newest ∧
          (m.version < newest ↔ ∃ k ∈ recordsOf segment records, ∃ n, k.replicas = .ok n ∧
            m.version < n.version)) ∧
      (LogFile.IsContinuable log → ∀ now m t, now.IsValid → m.WellFormed →
        (s.persist now segment m).value = .ok t →
          (t.loadLatest segment).value = .ok (some (.ofRoster m.toRoster)) ∧
          t.latest.get? segment = some m.version) := by
  obtain ⟨rfl, rfl, records, knows⟩ := FileSink.ofFile_eq_ok_iff.1 opened
  have newest := knows.newest segment
  have loaded : (s.loadLatest segment).value = latestOf segment records := knows.loadLatest segment
  have offered : (r.sink.loadLatest segment).value = latestOf segment records := by
    rw [sunk]
    exact loaded
  refine ⟨records, knows.read, newest, ?_, ?_⟩
  · cases last : (recordsOf segment records).getLast? with
    | none =>
      have none : latestOf segment records = .ok none := by rw [latestOf, last]
      refine .inl ⟨List.getLast?_eq_none_iff.1 last, loaded.trans none, fun clear => ?_⟩
      simp only [recover, locked_of_clear clear, offered, none]
    | some k =>
      have mem : k ∈ recordsOf segment records := List.mem_of_getLast? last
      obtain ⟨m, decoded⟩ := knows.decode k (List.mem_of_mem_filter mem)
      have some : latestOf segment records = .ok (some m) := by
        rw [latestOf_eq_of_getLast? last, decoded]
        rfl
      -- a segment with a record has a newest version
      cases known : s.latest.get? segment with
      | none =>
        rw [known] at newest
        rw [show recordsOf segment records = [] from newest] at mem
        cases mem
      | some v =>
        rw [known] at newest
        obtain ⟨⟨top, memTop, n, decodedTop, rfl⟩, above⟩ := newest
        have below : m.version ≤ n.version := above ⟨k, mem, m, decoded, rfl⟩
        refine .inr ⟨m, n.version, rfl, loaded.trans some, ?_, below, ?_, ?_⟩
        · intro clear
          simp only [recover, locked_of_clear clear, offered, some]
        · intro lower
          exact ⟨top, memTop, n, decodedTop, lower⟩
        · rintro ⟨other, memOther, n', decodedOther, lower⟩
          exact lt_of_lt_of_le lower (above ⟨other, memOther, n', decodedOther, rfl⟩)
  · intro continuable now m t valid wf persisted
    have known := knows.persist continuable valid wf persisted
    obtain ⟨-, rfl⟩ := FileSink.persist_eq_ok_iff.1 persisted
    exact ⟨known.loadLatest_last wf, IdMap.get?_insert_self⟩

/-- A log of two records can be opened, whatever their versions. -/
lemma exists_knows_two {first second : ReplicaSet} (first_wf : first.WellFormed)
    (second_wf : second.WellFormed) :
    ∃ s : FileSink, (FileSink.ofFile "log" (some s.log)).value = .ok s ∧
      (s.loadLatest 1).value = .ok (some (.ofRoster second.toRoster)) ∧
      s.latest.get? 1 = some (max second.version first.version) := by
  have start : LogFile.IsContinuable [] := LogFile.isContinuable_of_openLine_eq_nil rfl
  have one := (FileSink.knows_missing "log").extend start
    (SnapshotRecord.isSound_ofReplicaSet Instant.epoch_isValid)
    (SnapshotRecord.replicas_ofReplicaSet .epoch 1 first_wf)
  have next := LogFile.isContinuable_of_openLine_eq_nil
    (LogFile.openLine_append [] (.ofReplicaSet .epoch 1 first))
  have two := one.extend next (SnapshotRecord.isSound_ofReplicaSet Instant.epoch_isValid)
    (SnapshotRecord.replicas_ofReplicaSet .epoch 1 second_wf)
  exact ⟨_, two.reopen, two.loadLatest_last second_wf, FileSink.get?_newest_self _ _ _⟩

/-- From a log in which the versions of the segment go up, the newest one is recovered. -/
theorem recovers_newest_ascending :
    ∃ (log : List UInt8) (s : FileSink) (m : ReplicaSet),
      (FileSink.ofFile "log" (some log)).value = .ok s ∧
      (recover { sink := .file s } 1).value.1 = .ok (some m) ∧
      s.latest.get? 1 = some m.version ∧ m.version = ⟨1, 1⟩ := by
  let first : ReplicaSet := .ofRoster
    { version := ⟨1, 0⟩, primary := 1, secondaries := .ofList [2, 3] }
  let second : ReplicaSet := .ofRoster
    { version := ⟨1, 1⟩, primary := 1, secondaries := .ofList [2], inactive := .ofList [3] }
  obtain ⟨s, opened, last, newest⟩ := exists_knows_two (by decide : first.WellFormed)
    (by decide : second.WellFormed)
  obtain ⟨-, -, -, ⟨-, loaded, -⟩ | ⟨m, top, found, loaded, recovered, -⟩, -⟩ :=
    recovers_newest_iff (r := { sink := .file s }) opened rfl 1
  · rw [last] at loaded
    cases loaded
  · rw [last] at loaded
    cases loaded
    exact ⟨s.log, s, _, opened, congrArg Prod.fst (recovered rfl), newest, rfl⟩

/-- From a log in which a lower version of the segment stands after a higher one, the lower one is
recovered. -/
theorem recovers_below_newest :
    ∃ (log : List UInt8) (s : FileSink) (m : ReplicaSet) (newest : Version),
      (FileSink.ofFile "log" (some log)).value = .ok s ∧ s.latest.get? 1 = some newest ∧
      (s.loadLatest 1).value = .ok (some m) ∧ m.version < newest ∧
      (recover { sink := .file s } 1).value.2.get? 1 = some m := by
  let first : ReplicaSet := .ofRoster
    { version := ⟨1, 1⟩, primary := 1, secondaries := .ofList [2], inactive := .ofList [3] }
  let second : ReplicaSet := .ofRoster
    { version := ⟨1, 0⟩, primary := 1, secondaries := .ofList [2, 3] }
  obtain ⟨s, opened, last, newest⟩ := exists_knows_two (by decide : first.WellFormed)
    (by decide : second.WellFormed)
  refine ⟨s.log, s, second, _, opened, newest, last, by decide, ?_⟩
  have sunk : ((Sink.file s).loadLatest 1).value = .ok (some second) := last
  rw [recover, locked_of_clear rfl]
  simp only [sunk]
  exact get?_setInstalled_self _ _ _

end ReplicaQuorum.Registry
