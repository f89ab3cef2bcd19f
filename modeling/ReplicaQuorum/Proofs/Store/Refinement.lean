import ReplicaQuorum.Proofs.Store.Newest

/-!
# Files and memory

A file sink that was started on a missing file does what records in memory do, however often it is
closed and opened again. The records in the file are those of a memory sink, whose versions never
decrease in a segment. So the last record of a segment, by which a memory sink decides what is too
old, has the newest version, which a file sink keeps and finds again when it is opened. When
something was persisted makes no difference.
-/

namespace ReplicaQuorum

variable {segment : SegmentId} {now other : Instant} {m : ReplicaSet}

/-! ## Instants do not matter -/

/-- What a record says, besides when it was persisted. -/
def SnapshotRecord.key (r : SnapshotRecord) : SegmentId × String × UInt32 :=
  (r.segment, r.content, r.crc32)

/-- What the records of a segment say is picked from what all records say. -/
lemma map_key_recordsOf (segment : SegmentId) (records : List SnapshotRecord) :
    (recordsOf segment records).map SnapshotRecord.key =
      (records.map SnapshotRecord.key).filter fun key => key.1 = segment := by
  rw [List.filter_map]
  rfl

/-- Records that differ in their instants only give the same replica set. -/
lemma latestOf_congr {records later : List SnapshotRecord}
    (same : records.map SnapshotRecord.key = later.map SnapshotRecord.key) (segment : SegmentId) :
    latestOf segment records = latestOf segment later := by
  have keys : (recordsOf segment records).getLast?.map SnapshotRecord.key =
      (recordsOf segment later).getLast?.map SnapshotRecord.key := by
    rw [← List.getLast?_map, ← List.getLast?_map, map_key_recordsOf, map_key_recordsOf, same]
  unfold latestOf
  cases first : (recordsOf segment records).getLast? with
  | none =>
    rw [first, Option.map_none, eq_comm, Option.map_eq_none_iff] at keys
    rw [keys]
  | some r =>
    rw [first, Option.map_some, eq_comm, Option.map_eq_some_iff] at keys
    obtain ⟨k, second, key⟩ := keys
    have content : k.content = r.content := congrArg (·.2.1) key
    simp only [second, SnapshotRecord.replicas, content]

namespace MemorySink

variable {s k : MemorySink} {rosters : List Roster}

/-- Sinks with records that say the same take the same replica sets. -/
lemma persist_congr (same : s.records.map SnapshotRecord.key = k.records.map SnapshotRecord.key) :
    (∃ e, s.persist now segment m = .error e ∧ k.persist other segment m = .error e) ∨
      ∃ t l, s.persist now segment m = .ok t ∧ k.persist other segment m = .ok l ∧
        t.records.map SnapshotRecord.key = l.records.map SnapshotRecord.key := by
  rw [persist, persist, latestOf_congr same]
  simp only [bind, Except.bind]
  cases latestOf segment k.records with
  | error e => exact .inl ⟨e, rfl, rfl⟩
  | ok latest =>
    dsimp only
    cases refuseStale segment (latest.map (·.version)) m.version with
    | error e => exact .inl ⟨e, rfl, rfl⟩
    | ok _ =>
      refine .inr ⟨_, _, rfl, rfl, ?_⟩
      rw [List.map_append, List.map_append, same]
      rfl

/-- The versions of a segment are those of its rosters. -/
lemma Holds.versionsOf_eq (holds : s.Holds segment rosters) :
    versionsOf segment s.records = {v | ∃ r ∈ rosters, r.version = v} := by
  ext v
  constructor
  · rintro ⟨r, mem, n, decoded, rfl⟩
    obtain ⟨roster, memRosters, rfl⟩ := holds.replicas_iff.1 ⟨r, mem, decoded⟩
    exact ⟨roster, memRosters, rfl⟩
  · rintro ⟨roster, mem, rfl⟩
    obtain ⟨r, memRecords, decoded⟩ := holds.replicas_iff.2 ⟨roster, mem, rfl⟩
    exact ⟨r, memRecords, .ofRoster roster, decoded, rfl⟩

/-- The newest version of a segment is that of its last roster. -/
lemma Holds.isNewest (holds : s.Holds segment rosters) :
    IsNewest segment s.records (rosters.getLast?.map (·.version)) := by
  cases last : rosters.getLast? with
  | none =>
    have contents := holds.contents
    rw [List.getLast?_eq_none_iff.1 last] at contents
    exact List.map_eq_nil_iff.1 contents
  | some r =>
    rw [Option.map_some, IsNewest, holds.versionsOf_eq]
    refine ⟨⟨r, List.mem_of_getLast? last, rfl⟩, ?_⟩
    rintro _ ⟨k, mem, rfl⟩
    exact version_le_of_getLast? holds.ascending last mem

end MemorySink

/-! ## A file sink keeps what a memory sink holds -/

namespace FileSink

variable {s t : FileSink} {k l : MemorySink} {e : StoreError}

/-- The file holds the records of a memory sink, each on a line of its own, and the file sink knows
them. -/
structure Keeps (s : FileSink) (k : MemorySink) : Prop where
  knows : s.Knows k.records
  openLine_eq : Text.openLine s.log = []
  written : k.Written

/-- A sink over a missing file keeps what an empty memory sink has. -/
lemma keeps_missing (path : String) : Keeps { path } {} :=
  ⟨knows_missing path, rfl, .empty⟩

namespace Keeps

/-- A file sink loads what the memory sink loads. -/
lemma loadLatest (keeps : s.Keeps k) (segment : SegmentId) :
    (s.loadLatest segment).value = k.loadLatest segment :=
  keeps.knows.loadLatest segment

/-- The newest version that a file sink has is that of the last record. -/
lemma latest (keeps : s.Keeps k) {newest : Option ReplicaSet}
    (loaded : k.loadLatest segment = .ok newest) :
    s.latest.get? segment = newest.map (·.version) := by
  obtain ⟨rosters, holds⟩ := keeps.written.holds segment
  rw [holds.loadLatest] at loaded
  cases loaded
  rw [Option.map_map]
  exact (keeps.knows.newest segment).unique holds.isNewest

/-- A memory sink refuses what the file sink refuses, which is what is below the newest version. -/
lemma persist_memory (keeps : s.Keeps k) (now : Instant) (segment : SegmentId) (m : ReplicaSet) :
    k.persist now segment m =
      (refuseStale segment (s.latest.get? segment) m.version).map fun _ =>
        ⟨k.records ++ [.ofReplicaSet now segment m]⟩ := by
  obtain ⟨rosters, holds⟩ := keeps.written.holds segment
  have loaded := holds.loadLatest
  rw [MemorySink.persist, ← MemorySink.loadLatest, loaded, keeps.latest loaded]
  simp only [bind, Except.bind]
  cases refuseStale segment _ m.version <;> rfl

/-- A file sink refuses what the memory sink refuses. -/
lemma persist_of_error (keeps : s.Keeps k) (refused : k.persist now segment m = .error e) :
    (s.persist now segment m).value = .error e := by
  rw [keeps.persist_memory] at refused
  rw [FileSink.persist]
  cases check : refuseStale segment (s.latest.get? segment) m.version with
  | error e =>
    rw [check] at refused
    cases refused
    rfl
  | ok _ =>
    rw [check] at refused
    cases refused

/-- What is taken in memory is taken, and the file goes on keeping what the memory holds. -/
lemma persist_of_ok (keeps : s.Keeps k) (valid : now.IsValid) (wf : m.WellFormed)
    (taken : k.persist now segment m = .ok l) :
    ∃ t, (s.persist now segment m).value = .ok t ∧ t.Keeps l := by
  have written := keeps.written.persist wf taken
  rw [keeps.persist_memory] at taken
  cases check : refuseStale segment (s.latest.get? segment) m.version with
  | error e =>
    rw [check] at taken
    cases taken
  | ok _ =>
    rw [check] at taken
    cases taken
    have persisted : (s.persist now segment m).value = .ok _ :=
      persist_eq_ok_iff.2 ⟨refuseStale_eq_ok_iff.1 check, rfl⟩
    have continuable := LogFile.isContinuable_of_openLine_eq_nil keeps.openLine_eq
    exact ⟨_, persisted, keeps.knows.persist continuable valid wf persisted,
      LogFile.openLine_append s.log _, written⟩

end Keeps

end FileSink

/-! ## Sinks of both kinds -/

namespace Sink

variable {s t : Sink} {k l : MemorySink} {e : StoreError}

/-- What a sink has persisted. -/
def records : Sink → Except StoreError (List SnapshotRecord)
  | memory s => .ok s.records
  | file s => (LogFile.records s.path s.log).value

/-- Closes a sink and opens its file again. -/
def reopen : Sink → Except StoreError Sink
  | memory s => .ok (memory s)
  | file s => (FileSink.ofFile s.path (some s.log)).value.map file

/-- The sink has what was persisted to a memory sink. -/
def Keeps : Sink → MemorySink → Prop
  | memory s, k => s = k ∧ k.Written
  | file s, k => s.Keeps k

namespace Keeps

/-- The sink is read as the records of the memory sink. -/
lemma records_eq (keeps : s.Keeps k) : s.records = .ok k.records := by
  cases s with
  | memory s => rw [records, keeps.1]
  | file s => exact keeps.knows.read

/-- The sink loads what the memory sink loads. -/
lemma loadLatest (keeps : s.Keeps k) (segment : SegmentId) :
    (s.loadLatest segment).value = k.loadLatest segment := by
  cases s with
  | memory s => exact congrArg (·.loadLatest segment) keeps.1
  | file s => exact FileSink.Keeps.loadLatest keeps segment

/-- The sink is the same when it was closed and opened again. -/
lemma reopen (keeps : s.Keeps k) : s.reopen = .ok s := by
  cases s with
  | memory s => rfl
  | file s => rw [Sink.reopen, keeps.knows.reopen]; rfl

/-- All records of the memory sink were persisted. -/
lemma written (keeps : s.Keeps k) : k.Written := by
  cases s with
  | memory s => exact keeps.2
  | file s => exact FileSink.Keeps.written keeps

/-- The sink refuses what the memory sink refuses. -/
lemma persist_of_error (keeps : s.Keeps k) (refused : k.persist now segment m = .error e) :
    (s.persist now segment m).value = .error e := by
  cases s with
  | memory s =>
    obtain ⟨rfl, -⟩ := keeps
    rw [Sink.persist, refused]
    rfl
  | file s =>
    simp only [Sink.persist, FileSink.Keeps.persist_of_error keeps refused]
    rfl

/-- The sink takes what the memory sink takes. -/
lemma persist_of_ok (keeps : s.Keeps k) (valid : now.IsValid) (wf : m.WellFormed)
    (taken : k.persist now segment m = .ok l) :
    ∃ t, (s.persist now segment m).value = .ok t ∧ t.Keeps l := by
  cases s with
  | memory s =>
    obtain ⟨rfl, written⟩ := keeps
    refine ⟨memory l, ?_, rfl, written.persist wf taken⟩
    rw [Sink.persist, taken]
    rfl
  | file s =>
    obtain ⟨t, persisted, kept⟩ := FileSink.Keeps.persist_of_ok keeps valid wf taken
    refine ⟨file t, ?_, kept⟩
    simp only [Sink.persist, persisted]
    rfl

/-- What the sink takes, the memory sink takes as well. -/
lemma of_persist (keeps : s.Keeps k) (valid : now.IsValid) (wf : m.WellFormed)
    (persisted : (s.persist now segment m).value = .ok t) :
    ∃ l, k.persist now segment m = .ok l ∧ t.Keeps l := by
  cases memory : k.persist now segment m with
  | error e =>
    rw [keeps.persist_of_error memory] at persisted
    cases persisted
  | ok l =>
    obtain ⟨t', taken, kept⟩ := keeps.persist_of_ok valid wf memory
    rw [taken] at persisted
    cases persisted
    exact ⟨l, rfl, kept⟩

end Keeps

/-- A new sink keeps what an empty memory sink has. -/
lemma keeps_of_ofPath {path : Option String} (opened : (ofPath path none).value = .ok s) :
    s.Keeps {} := by
  cases path with
  | none =>
    cases opened
    exact ⟨rfl, .empty⟩
  | some path =>
    cases opened
    exact FileSink.keeps_missing path

/-! ## Uses of a sink -/

/-- What is done with a sink. -/
inductive Use where
  | persist (segment : SegmentId) (m : ReplicaSet)
  | load (segment : SegmentId)
  | reopen

/-- What a sink tells its user. -/
inductive Answer where
  | persisted (result : Except StoreError Unit)
  | loaded (result : Except StoreError (Option ReplicaSet))
  | reopened (result : Except StoreError Unit)

/-- The answer of an operation that leaves the sink as it was if it fails, and the sink after it. -/
def answered (s : Sink) (answer : Except StoreError Unit → Answer) :
    Except StoreError Sink → Answer × Sink
  | .error e => (answer (.error e), s)
  | .ok t => (answer (.ok ()), t)

/-- The answer to a use of a sink and the sink after it. -/
def use (s : Sink) (now : Instant) : Use → Answer × Sink
  | .persist segment m => s.answered .persisted (s.persist now segment m).value
  | .load segment => (.loaded (s.loadLatest segment).value, s)
  | .reopen => s.answered .reopened s.reopen

/-- The answers to some uses of a sink, one after the other, and the sink after them. The clock
tells the instant of each use. -/
def run (s : Sink) (clock : Nat → Instant) : List Use → List Answer × Sink
  | [] => ([], s)
  | u :: uses =>
    let first := s.use (clock 0) u
    let later := first.2.run (fun n => clock (n + 1)) uses
    (first.1 :: later.1, later.2)

/-- A replica set that is persisted is well formed, as all are. -/
def Use.PersistsWellFormed : Use → Prop
  | persist _ m => m.WellFormed
  | _ => True

/-- What two sinks have persisted says the same. -/
def Alike (s t : Sink) : Prop :=
  ∃ k l, s.Keeps k ∧ t.Keeps l ∧
    k.records.map SnapshotRecord.key = l.records.map SnapshotRecord.key

/-- Sinks that are alike answer alike and stay alike, whatever their clocks. -/
lemma Alike.use (alike : s.Alike t) (valid : now.IsValid) (valid' : other.IsValid) {u : Use}
    (wf : u.PersistsWellFormed) :
    (s.use now u).1 = (t.use other u).1 ∧ (s.use now u).2.Alike (t.use other u).2 := by
  obtain ⟨k, l, first, second, same⟩ := alike
  cases u with
  | persist segment m =>
    have checked : _ ∨ ∃ a b, k.persist now segment m = .ok a ∧
      l.persist other segment m = .ok b ∧ _ := MemorySink.persist_congr same
    obtain ⟨e, refused, refused'⟩ | ⟨a, b, taken, taken', same'⟩ := checked
    · simp only [Sink.use, first.persist_of_error refused, second.persist_of_error refused']
      exact ⟨rfl, k, l, first, second, same⟩
    · obtain ⟨s', persisted, keeps⟩ := first.persist_of_ok valid wf taken
      obtain ⟨t', persisted', keeps'⟩ := second.persist_of_ok valid' wf taken'
      simp only [Sink.use, persisted, persisted']
      exact ⟨rfl, a, b, keeps, keeps', same'⟩
  | load segment =>
    refine ⟨?_, k, l, first, second, same⟩
    have loaded := latestOf_congr same segment
    simp only [Sink.use, first.loadLatest, second.loadLatest]
    exact congrArg Answer.loaded loaded
  | reopen =>
    simp only [Sink.use, first.reopen, second.reopen]
    exact ⟨rfl, k, l, first, second, same⟩

/-- Sinks that are alike answer any uses alike, whatever their clocks show, and stay so. -/
lemma Alike.run (alike : s.Alike t) {clock clock' : Nat → Instant} (valid : ∀ n, (clock n).IsValid)
    (valid' : ∀ n, (clock' n).IsValid) {uses : List Use} (wf : ∀ u ∈ uses, u.PersistsWellFormed) :
    (s.run clock uses).1 = (t.run clock' uses).1 ∧
      (s.run clock uses).2.Alike (t.run clock' uses).2 := by
  induction uses generalizing s t clock clock' with
  | nil => exact ⟨rfl, alike⟩
  | cons u uses ih =>
    obtain ⟨first, later⟩ := List.forall_mem_cons.1 wf
    obtain ⟨answer, alike⟩ := alike.use (valid 0) (valid' 0) first
    obtain ⟨answers, alike⟩ := ih alike (fun n => valid (n + 1)) (fun n => valid' (n + 1)) later
    exact ⟨congrArg₂ List.cons answer answers, alike⟩

/-- Sinks that are alike are opened again whenever they are closed. -/
lemma Alike.reopens (alike : s.Alike t) {clock : Nat → Instant} (valid : ∀ n, (clock n).IsValid)
    {uses : List Use} (wf : ∀ u ∈ uses, u.PersistsWellFormed) {result : Except StoreError Unit}
    (mem : .reopened result ∈ (s.run clock uses).1) : result = .ok () := by
  induction uses generalizing s t clock with
  | nil => cases mem
  | cons u uses ih =>
    obtain ⟨first, later⟩ := List.forall_mem_cons.1 wf
    rcases List.mem_cons.1 mem with now | mem
    · cases u with
      | persist segment m =>
        rw [Sink.use] at now
        generalize (s.persist (clock 0) segment m).value = taken at now
        cases taken <;> cases now
      | load segment => cases now
      | reopen =>
        obtain ⟨k, -, keeps, -⟩ := alike
        rw [Sink.use, keeps.reopen] at now
        cases now
        rfl
    · exact ih (alike.use (valid 0) (valid 0) first).2 (fun n => valid (n + 1)) later mem

/-- A file sink over a missing file and an empty memory sink give the same answers, whatever is done
with them and whatever their clocks show, every file is opened again, and what they have persisted
says the same, in the same order. -/
theorem file_refines_memory {path : String} {s : FileSink}
    (opened : (FileSink.ofFile path none).value = .ok s) {clock clock' : Nat → Instant}
    (valid : ∀ n, (clock n).IsValid) (valid' : ∀ n, (clock' n).IsValid) {uses : List Use}
    (wf : ∀ u ∈ uses, u.PersistsWellFormed) :
    ((file s).run clock uses).1 = (empty.run clock' uses).1 ∧
      (∀ result, .reopened result ∈ ((file s).run clock uses).1 → result = .ok ()) ∧
      ∃ records records', ((file s).run clock uses).2.records = .ok records ∧
        (empty.run clock' uses).2.records = .ok records' ∧
        records.map SnapshotRecord.key = records'.map SnapshotRecord.key := by
  cases opened
  have start : (file { path }).Alike empty :=
    ⟨{}, {}, FileSink.keeps_missing path, ⟨rfl, .empty⟩, rfl⟩
  obtain ⟨answers, k, l, first, second, same⟩ := start.run valid valid' wf
  exact ⟨answers, fun _ mem => start.reopens valid wf mem, k.records, l.records, first.records_eq,
    second.records_eq, same⟩

/-- A file that was closed and opened again refuses what is too old, as the memory does. -/
theorem file_refines_memory_reopened :
    ∃ (s : FileSink) (m lower : ReplicaSet), (FileSink.ofFile "log" none).value = .ok s ∧
      ((file s).run (fun _ => .epoch) [.persist 1 m, .reopen, .persist 1 lower, .load 1]).1 =
        [.persisted (.ok ()), .reopened (.ok ()),
          .persisted (.error (.staleVersion 1 lower.version m.version)),
          .loaded (.ok (some m))] := by
  let m : ReplicaSet := .ofRoster
    { version := ⟨1, 1⟩, primary := 1, secondaries := .ofList [2], inactive := .ofList [3] }
  let lower : ReplicaSet := .ofRoster
    { version := ⟨1, 0⟩, primary := 1, secondaries := .ofList [2, 3] }
  let later : Instant := { Instant.epoch with second := 1 }
  have m_wf : m.WellFormed := by decide
  have lower_wf : lower.WellFormed := by decide
  have later_valid : later.IsValid := ⟨by decide, by decide, .inl (by decide)⟩
  have wf : ∀ u ∈ [.persist 1 m, .reopen, .persist 1 lower, .load 1], Use.PersistsWellFormed u := by
    simp only [List.forall_mem_cons]
    exact ⟨m_wf, trivial, lower_wf, trivial, nofun⟩
  have opened : (FileSink.ofFile "log" none).value = .ok { path := "log" } := rfl
  obtain ⟨answers, -⟩ :=
    file_refines_memory opened (fun _ => Instant.epoch_isValid) (fun _ => later_valid) wf
  have holds : MemorySink.Holds ⟨[.ofReplicaSet later 1 m]⟩ 1 [m.toRoster] :=
    ⟨rfl, by simpa using m_wf, List.pairwise_singleton _ _⟩
  have loaded : latestOf 1 [.ofReplicaSet later 1 m] = .ok (some m) := holds.loadLatest
  have refused : MemorySink.persist ⟨[.ofReplicaSet later 1 m]⟩ later 1 lower =
      .error (.staleVersion 1 lower.version m.version) := by
    rw [MemorySink.persist, loaded]
    rfl
  have taken : MemorySink.persist {} later 1 m = .ok ⟨[.ofReplicaSet later 1 m]⟩ := rfl
  refine ⟨_, m, lower, opened, answers.trans ?_⟩
  simp only [run, Sink.use, answered, Sink.reopen, empty, Sink.persist, taken, refused, Except.map,
    Sink.loadLatest, MemorySink.loadLatest, loaded]

end Sink

end ReplicaQuorum
