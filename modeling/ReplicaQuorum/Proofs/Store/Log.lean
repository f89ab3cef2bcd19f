import ReplicaQuorum.Proofs.Store.Line

/-!
# Adding to a log

A log is read if all of its lines are blank or hold a record, and the first line that is neither
decides. A record that is added goes on with the open line: over nothing but spaces it stands on a
line of its own, over anything else it spoils the log for good.
-/

namespace ReplicaQuorum.LogFile

variable {path : String} {log : List UInt8} {number : Nat} {before after : List Line}
  {r : SnapshotRecord} {records later : List SnapshotRecord}

/-! ## Reading lines -/

/-- The line is blank or holds a record. -/
def Line.isReadable : Line → Bool
  | blank => true
  | intact _ => true
  | _ => false

/-- The record that is read from a line. -/
def Line.record? : Line → Option SnapshotRecord
  | intact r => some r
  | _ => none

/-- Bytes that are a text are taken for what the text is. -/
lemma Line.ofBytes_of_decodeUtf8 {bytes : List UInt8} {s : List Char}
    (decoded : Text.decodeUtf8 bytes = some s) : ofBytes bytes = ofText s := by
  rw [ofBytes, decoded]

/-- Readable lines are read, and the reader goes on after them. -/
lemma recordsFrom_append (readable : ∀ l ∈ before, l.isReadable) :
    recordsFrom path number (before ++ after) =
      ⟨(recordsFrom path (number + before.length) after).value.map
        (before.filterMap Line.record? ++ ·),
      (recordsFrom path (number + before.length) after).notices⟩ := by
  induction before generalizing number with
  | nil =>
    simp only [List.nil_append, List.length_nil, Nat.add_zero, List.filterMap_nil]
    generalize recordsFrom path number after = read
    obtain ⟨_ | _, _⟩ := read <;> rfl
  | cons l before ih =>
    obtain ⟨first, others⟩ := List.forall_mem_cons.1 readable
    have count : number + (l :: before).length = number + 1 + before.length := by
      rw [List.length_cons]
      omega
    rw [List.cons_append, count]
    cases l with
    | blank => exact ih others
    | intact r =>
      rw [recordsFrom, ih others]
      cases (recordsFrom path (number + 1 + before.length) after).value <;> rfl
    | _ => cases first

/-- Lines that can all be read give their records. -/
lemma recordsFrom_of_readable (readable : ∀ l ∈ before, l.isReadable) :
    recordsFrom path number before = ⟨.ok (before.filterMap Line.record?), []⟩ := by
  have read : recordsFrom path number (before ++ []) = _ := recordsFrom_append readable
  simpa [recordsFrom, Except.map] using read

/-- There are records exactly if every line can be read, and they are those of the lines. -/
lemma recordsFrom_eq_ok_iff {lines : List Line} :
    (recordsFrom path number lines).value = .ok records ↔
      (∀ l ∈ lines, l.isReadable) ∧ records = lines.filterMap Line.record? := by
  constructor
  · intro read
    have readable : ∀ l ∈ lines, l.isReadable := by
      induction lines generalizing number records with
      | nil => exact nofun
      | cons l lines ih =>
        refine List.forall_mem_cons.2 ?_
        cases l with
        | blank => exact ⟨rfl, ih read⟩
        | intact r =>
          rw [recordsFrom] at read
          cases others : (recordsFrom path (number + 1) lines).value with
          | error e => rw [others] at read; cases read
          | ok _ => exact ⟨rfl, ih others⟩
        | _ => cases read
    rw [recordsFrom_of_readable readable] at read
    exact ⟨readable, (Except.ok.inj read).symm⟩
  · rintro ⟨readable, rfl⟩
    rw [recordsFrom_of_readable readable]

/-- A log is read exactly if all of its lines are readable. -/
lemma records_eq_ok_iff :
    (LogFile.records path log).value = .ok records ↔
      (∀ l ∈ lines log, l.isReadable) ∧ records = (lines log).filterMap Line.record? :=
  recordsFrom_eq_ok_iff

/-- There is nothing to notice about a log that is read. -/
lemma records_of_value (read : (LogFile.records path log).value = .ok records) :
    LogFile.records path log = ⟨.ok records, []⟩ := by
  obtain ⟨readable, rfl⟩ := records_eq_ok_iff.1 read
  exact recordsFrom_of_readable readable

/-! ## The open line -/

/-- There is nothing but spaces of the format on the open line. -/
def IsContinuable (log : List UInt8) : Prop :=
  ∃ spaces, Text.openLine log = Text.encodeUtf8 spaces ∧ ∀ c ∈ spaces, Json.isSpace c

/-- The lines of a log before the open one. -/
def closed (log : List UInt8) : List Line :=
  lines (Text.closedLines log)

/-- The lines of a log are those that are closed, and the open one if anything stands on it. -/
lemma lines_eq_closed (log : List UInt8) :
    lines log =
      closed log ++ if Text.openLine log = [] then [] else [Line.ofBytes (Text.openLine log)] := by
  rw [lines, Text.lines_eq, List.map_append, closed, lines]
  split <;> rfl

/-- A record that is added goes on with the open line. -/
lemma lines_append (log : List UInt8) (r : SnapshotRecord) :
    lines (append log r) = closed log ++ [Line.ofBytes (Text.openLine log ++ bytesOf r)] := by
  rw [append, lineOf_eq, lines, Text.lines_append_line log (lineFeed_notMem_bytesOf r)
    (getLast_bytesOf r) (bytesOf_ne_nil r), List.map_append]
  rfl

/-- Without a line feed no line is closed. -/
lemma closed_eq_nil (notMem : Text.lineFeed ∉ log) : closed log = [] := by
  rw [closed, Text.closedLines_eq_nil notMem]
  rfl

/-- A record without a line feed is read all the same. -/
lemma lines_bytesOf (sound : r.IsSound) : lines (bytesOf r) = [.intact r] := by
  have held : Line.ofBytes (bytesOf r) = .intact r := by
    rw [bytesOf, Line.ofBytes_of_decodeUtf8 (Text.decodeUtf8_encodeUtf8 _)]
    exact ofText_renderChars (List.forall_mem_nil _) sound
  have notMem := lineFeed_notMem_bytesOf r
  rw [lines_eq_closed, closed_eq_nil notMem, Text.openLine_eq_self notMem, held,
    if_neg (bytesOf_ne_nil r), List.nil_append]

/-- An added record closes its line. -/
lemma openLine_append (log : List UInt8) (r : SnapshotRecord) :
    Text.openLine (append log r) = [] := by
  rw [append, lineOf_eq, ← List.append_assoc]
  exact Text.openLine_append_lineFeed _

/-- A log that ends in a line feed can be continued. -/
lemma isContinuable_of_openLine_eq_nil (none : Text.openLine log = []) : IsContinuable log :=
  ⟨[], none, nofun⟩

/-- The blanks of the format are blanks. -/
lemma isBlank_of_isSpace {c : Char} (space : Json.isSpace c) : Text.isBlank c := by
  simp only [Json.isSpace, Bool.or_eq_true, decide_eq_true_eq] at space
  rcases space with ((rfl | rfl) | rfl) | rfl <;> decide

/-- The open line of a log that can be continued is taken for a blank one. -/
lemma IsContinuable.ofBytes_openLine (continuable : IsContinuable log) :
    Line.ofBytes (Text.openLine log) = .blank := by
  obtain ⟨spaces, eq, space⟩ := continuable
  have blank : Text.isAllBlank spaces = true :=
    List.all_eq_true.2 fun c mem => isBlank_of_isSpace (space c mem)
  rw [eq, Line.ofBytes_of_decodeUtf8 (Text.decodeUtf8_encodeUtf8 spaces), Line.ofText, if_pos blank]

/-- All records of a log that can be continued are on closed lines. -/
lemma IsContinuable.filterMap_lines (continuable : IsContinuable log) :
    (lines log).filterMap Line.record? = (closed log).filterMap Line.record? := by
  rw [lines_eq_closed, continuable.ofBytes_openLine]
  split <;> simp [Line.record?]

/-- A record that is added to an open line of spaces stands on it. -/
lemma IsContinuable.ofBytes_append (continuable : IsContinuable log) (sound : r.IsSound) :
    Line.ofBytes (Text.openLine log ++ bytesOf r) = .intact r := by
  obtain ⟨spaces, eq, space⟩ := continuable
  rw [eq, bytesOf, ← Text.encodeUtf8_append,
    Line.ofBytes_of_decodeUtf8 (Text.decodeUtf8_encodeUtf8 _)]
  exact ofText_renderChars space sound

/-- A record that is added to any other open line that was readable makes it unreadable. -/
lemma ofBytes_append_of_not_isContinuable (spoiled : ¬IsContinuable log)
    (readable : (Line.ofBytes (Text.openLine log)).isReadable) (r : SnapshotRecord) :
    Line.ofBytes (Text.openLine log ++ bytesOf r) = .malformed := by
  cases decoded : Text.decodeUtf8 (Text.openLine log) with
  | none =>
    rw [Line.ofBytes, decoded] at readable
    cases readable
  | some s =>
    rw [Line.ofBytes_of_decodeUtf8 decoded] at readable
    rw [bytesOf, Line.ofBytes_of_decodeUtf8 (Text.decodeUtf8_append decoded _)]
    -- what could be read is a record or blanks
    cases line : Line.ofText s with
    | intact k => exact ofText_append_of_intact line r
    | blank =>
      have blank : Text.isAllBlank s = true := by
        cases isOn_of_ofText line with
        | blank blank => exact blank
      refine ofText_append_of_blank blank ?_ r
      by_contra spaces
      push Not at spaces
      exact spoiled ⟨s, Text.decodeUtf8_eq_some_iff.1 decoded, spaces⟩
    | _ => rw [line] at readable; cases readable

/-! ## Adding records -/

/-- The log with some more records. -/
def appendAll (log : List UInt8) (records : List SnapshotRecord) : List UInt8 :=
  records.foldl append log

/-- A record that is added to a log without an open line, or with one of spaces, is read after the
others. -/
theorem records_append (continuable : IsContinuable log)
    (read : (LogFile.records path log).value = .ok records) (sound : r.IsSound) :
    LogFile.records path (append log r) = ⟨.ok (records ++ [r]), []⟩ := by
  obtain ⟨readable, rfl⟩ := records_eq_ok_iff.1 read
  refine records_of_value (records_eq_ok_iff.2 ?_)
  rw [lines_append, continuable.ofBytes_append sound, continuable.filterMap_lines]
  constructor
  · intro l mem
    rcases List.mem_append.1 mem with mem | mem
    · exact readable l (lines_eq_closed log ▸ List.mem_append_left _ mem)
    · obtain rfl := List.mem_singleton.1 mem
      rfl
  · rw [List.filterMap_append]
    rfl

/-- The first line that cannot be read is the malformed one with the given number, and it is
closed. -/
structure IsSpoiledAt (log : List UInt8) (number : Nat) : Prop where
  openLine_eq : Text.openLine log = []
  split : ∃ before after, lines log = before ++ .malformed :: after ∧
    (∀ l ∈ before, l.isReadable) ∧ before.length + 1 = number

/-- A spoiled log is not read, and the spoiled line is reported. -/
lemma IsSpoiledAt.records_eq (spoiled : IsSpoiledAt log number) (path : String) :
    LogFile.records path log = ⟨.error (.malformedRecord number LogFile.noRecord), []⟩ := by
  obtain ⟨before, after, eq, readable, rfl⟩ := spoiled.split
  rw [LogFile.records, eq, recordsFrom_append readable, Nat.add_comm 1]
  rfl

/-- What is added to a spoiled log does not mend it. -/
lemma IsSpoiledAt.append (spoiled : IsSpoiledAt log number) (r : SnapshotRecord) :
    IsSpoiledAt (append log r) number where
  openLine_eq := openLine_append log r
  split := by
    obtain ⟨before, after, eq, readable, length⟩ := spoiled.split
    have all : closed log = lines log := by
      rw [lines_eq_closed, if_pos spoiled.openLine_eq, List.append_nil]
    refine ⟨before, after ++ [Line.ofBytes (Text.openLine log ++ bytesOf r)], ?_, readable, length⟩
    rw [lines_append, all, eq, List.append_assoc, List.cons_append]

/-- A record that is added to an open line of anything but spaces spoils the line. -/
lemma isSpoiledAt_append (held : ¬IsContinuable log)
    (read : (LogFile.records path log).value = .ok records) (r : SnapshotRecord) :
    IsSpoiledAt (append log r) (lines log).length where
  openLine_eq := openLine_append log r
  split := by
    have filled : Text.openLine log ≠ [] := fun none => held (isContinuable_of_openLine_eq_nil none)
    have all : lines log = closed log ++ [Line.ofBytes (Text.openLine log)] := by
      rw [lines_eq_closed, if_neg filled]
    obtain ⟨readable, -⟩ := records_eq_ok_iff.1 read
    rw [all] at readable
    have last : (Line.ofBytes (Text.openLine log)).isReadable := readable _ (by simp)
    refine ⟨closed log, [], ?_, fun l mem => readable l (List.mem_append_left _ mem), ?_⟩
    · rw [lines_append, ofBytes_append_of_not_isContinuable held last]
    · rw [all, List.length_append, List.length_singleton]

/-- Records that are added to an open line of anything but spaces leave a log that is never read
again. -/
theorem records_appendAll_of_not_isContinuable (held : ¬IsContinuable log)
    (read : (LogFile.records path log).value = .ok records) (r : SnapshotRecord)
    (later : List SnapshotRecord) :
    LogFile.records path (appendAll log (r :: later)) =
      ⟨.error (.malformedRecord (lines log).length LogFile.noRecord), []⟩ := by
  have first : IsSpoiledAt (append log r) (lines log).length := isSpoiledAt_append held read r
  have all : IsSpoiledAt (appendAll (append log r) later) (lines log).length := by
    generalize append log r = spoiled at first
    induction later generalizing spoiled with
    | nil => exact first
    | cons k later ih => exact ih _ (first.append k)
  exact all.records_eq path

end ReplicaQuorum.LogFile
