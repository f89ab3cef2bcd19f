import ReplicaQuorum.Proofs.Store.Log

/-!
# Reading a log

A log is read all or nothing. If every line of its text that is not blank is a record with the
checksum that fits it, these records are read in order. Otherwise the first line that is not
decides, by its number among all lines, whatever follows it. What there has to be on a line is said
of its text alone, and the reader sorts the lines accordingly.
-/

namespace ReplicaQuorum.LogFile

variable {path : String} {log : List UInt8} {number : Nat} {line : List Char} {l : Line}
  {texts : List (List Char)} {before after : List Line} {records : List SnapshotRecord}
  {e : StoreError}

/-! ## Texts of lines -/

/-- A line that is blank, or a record with the checksum that fits it. -/
def IsSoundLine (line : List Char) : Prop :=
  Text.isAllBlank line ∨ ∃ r, recordOn? line = some r ∧ r.crc32 = checksum r.segment r.content

/-- What is to be reported of a line with a number. The reason for a line without a record is the
same whatever stands on it. -/
inductive Offends (number : Nat) (line : List Char) : StoreError → Prop where
  | malformed (filled : Text.isAllBlank line = false) (unread : recordOn? line = none) :
    Offends number line (.malformedRecord number noRecord)
  | mismatch {r : SnapshotRecord} (filled : Text.isAllBlank line = false)
    (read : recordOn? line = some r) (unfit : r.crc32 ≠ checksum r.segment r.content) :
    Offends number line (.checksumMismatch number r.crc32 (checksum r.segment r.content))

/-- The lines that are not blank are these records, in order, each with the checksum that fits
it. -/
def AreRecords (texts : List (List Char)) (records : List SnapshotRecord) : Prop :=
  (texts.filter fun line => !Text.isAllBlank line).map recordOn? = records.map some ∧
    ∀ r ∈ records, r.crc32 = checksum r.segment r.content

/-- The lines of a log that is a text are the lines of that text. -/
lemma lines_of_decodeUtf8 {s : List Char} (text : Text.decodeUtf8 log = some s) :
    lines log = (Text.linesOf s).map Line.ofText := by
  rw [Text.decodeUtf8_eq_some_iff.1 text, lines, Text.lines_encodeUtf8, List.map_map]
  refine List.map_congr_left fun line _ => ?_
  exact Line.ofBytes_of_decodeUtf8 (Text.decodeUtf8_encodeUtf8 line)

/-! ## Logs that are read -/

/-- A line is sound exactly if it can be read. -/
lemma isSoundLine_iff : IsSoundLine line ↔ (Line.ofText line).isReadable := by
  have on := isOn_ofText line
  generalize Line.ofText line = l at on
  cases on with
  | blank blank => exact iff_of_true (.inl blank) rfl
  | malformed filled unread => simp [IsSoundLine, Line.isReadable, filled, unread]
  | corrupt filled read unfit => simp [IsSoundLine, Line.isReadable, filled, read, unfit]
  | intact filled read fits => exact iff_of_true (.inr ⟨_, read, fits⟩) rfl

/-- A blank line adds no record. -/
lemma areRecords_cons_of_blank (blank : Text.isAllBlank line) :
    AreRecords (line :: texts) records ↔ AreRecords texts records := by
  rw [AreRecords, List.filter_cons_of_neg (by simp [blank])]
  exact Iff.rfl

/-- A line that is not blank adds the record that is on it. -/
lemma areRecords_cons_of_filled (filled : Text.isAllBlank line = false) :
    AreRecords (line :: texts) records ↔
      ∃ r others, recordOn? line = some r ∧ r.crc32 = checksum r.segment r.content ∧
        records = r :: others ∧ AreRecords texts others := by
  rw [AreRecords, List.filter_cons_of_pos (by simp [filled]), List.map_cons]
  constructor
  · rintro ⟨same, fit⟩
    cases records with
    | nil => cases same
    | cons r others =>
      obtain ⟨read, same⟩ := List.cons.inj same
      obtain ⟨fits, fit⟩ := List.forall_mem_cons.1 fit
      exact ⟨r, others, read, fits, rfl, same, fit⟩
  · rintro ⟨r, others, read, fits, rfl, same, fit⟩
    rw [read, same]
    exact ⟨rfl, List.forall_mem_cons.2 ⟨fits, fit⟩⟩

/-- The reader finds all texts readable if they are records where they are not blank, and reads
these. -/
lemma readable_iff :
    ((∀ l ∈ texts.map Line.ofText, l.isReadable) ∧
        records = (texts.map Line.ofText).filterMap Line.record?) ↔ AreRecords texts records := by
  induction texts generalizing records with
  | nil => cases records <;> simp [AreRecords]
  | cons line texts ih =>
    have on := isOn_ofText line
    simp only [List.map_cons, List.forall_mem_cons]
    generalize Line.ofText line = l at on
    cases on with
    | blank blank =>
      rw [areRecords_cons_of_blank blank, ← ih]
      exact and_congr_left fun _ => and_iff_right rfl
    | malformed filled unread => simp [areRecords_cons_of_filled filled, unread, Line.isReadable]
    | corrupt filled read unfit =>
      simp [areRecords_cons_of_filled filled, read, unfit, Line.isReadable]
    | @intact r filled read fits =>
      rw [areRecords_cons_of_filled filled]
      constructor
      · rintro ⟨⟨-, readable⟩, rfl⟩
        exact ⟨r, _, read, fits, rfl, ih.1 ⟨readable, rfl⟩⟩
      · rintro ⟨k, others, other, -, rfl, rest⟩
        obtain rfl : r = k := Option.some.inj (read.symm.trans other)
        obtain ⟨readable, rfl⟩ := ih.2 rest
        exact ⟨⟨rfl, readable⟩, rfl⟩

/-! ## Logs that are not -/

/-- The error with which reading stops at a line. -/
def Line.error? (number : Nat) : Line → Option StoreError
  | undecodable => some (.io "stream did not contain valid UTF-8")
  | malformed => some (.malformedRecord number noRecord)
  | corrupt r => some (.checksumMismatch number r.crc32 (checksum r.segment r.content))
  | blank | intact _ => none

/-- What is to be reported of a line is what its reading gives. -/
lemma offends_iff : Offends number line e ↔ (Line.ofText line).error? number = some e := by
  have on := isOn_ofText line
  generalize Line.ofText line = l at on
  constructor
  · intro offends
    cases offends with
    | malformed filled unread =>
      cases on with
      | malformed => rfl
      | blank blank => simp [blank] at filled
      | corrupt _ read | intact _ read => simp [unread] at read
    | mismatch filled read unfit =>
      cases on with
      | corrupt _ other =>
        cases read.symm.trans other
        rfl
      | intact _ other fits =>
        cases read.symm.trans other
        exact absurd fits unfit
      | blank blank => simp [blank] at filled
      | malformed _ unread => simp [unread] at read
  · intro stops
    cases on with
    | malformed filled unread =>
      cases stops
      exact .malformed filled unread
    | corrupt filled read unfit =>
      cases stops
      exact .mismatch filled read unfit
    | blank | intact => cases stops

/-- A line that cannot be read decides, whatever follows it. -/
lemma recordsFrom_of_error (stops : l.error? number = some e) :
    (recordsFrom path number (l :: after)).value = .error e := by
  cases l with
  | undecodable | malformed | corrupt =>
    cases stops
    rfl
  | blank | intact => cases stops

/-- There is something to report of a line that cannot be read. -/
lemma exists_error (unreadable : l.isReadable = false) (number : Nat) :
    ∃ e, l.error? number = some e := by
  cases l with
  | undecodable | malformed | corrupt => exact ⟨_, rfl⟩
  | blank | intact => cases unreadable

/-- Reading stops at the first line at which it does. -/
lemma recordsFrom_eq_error_iff {all : List Line} :
    (recordsFrom path number all).value = .error e ↔
      ∃ before l after, all = before ++ l :: after ∧ (∀ k ∈ before, k.isReadable) ∧
        l.error? (number + before.length) = some e := by
  have stopped {before after : List Line} {l : Line} {e : StoreError}
      (readable : ∀ k ∈ before, k.isReadable) (stops : l.error? (number + before.length) = some e) :
      (recordsFrom path number (before ++ l :: after)).value = .error e := by
    rw [recordsFrom_append readable, recordsFrom_of_error stops]
    rfl
  constructor
  · intro failed
    cases first : all.find? fun l => !l.isReadable with
    | none =>
      have readable : ∀ l ∈ all, l.isReadable := by simpa using List.find?_eq_none.1 first
      rw [recordsFrom_of_readable readable] at failed
      cases failed
    | some l =>
      obtain ⟨unreadable, before, after, rfl, readable⟩ :=
        List.find?_eq_some_iff_append.1 first
      have readable : ∀ k ∈ before, k.isReadable := by simpa using readable
      obtain ⟨e', stops⟩ := exists_error (by simpa using unreadable) (number + before.length)
      obtain rfl : e' = e := Except.error.inj ((stopped readable stops).symm.trans failed)
      exact ⟨before, l, after, rfl, readable, stops⟩
  · rintro ⟨before, l, after, rfl, readable, stops⟩
    exact stopped readable stops

/-- A log that is a text is read exactly if each of its lines that is not blank is a record with the
checksum that fits it, and these records are read in order. It is not read with exactly the error of
the first line that is neither, under its number among all lines. -/
theorem records_all_or_nothing {s : List Char} (text : Text.decodeUtf8 log = some s) :
    (∀ records, (LogFile.records path log).value = .ok records ↔
      AreRecords (Text.linesOf s) records) ∧
    (∀ e, (LogFile.records path log).value = .error e ↔
      ∃ before line after, Text.linesOf s = before ++ line :: after ∧
        (∀ l ∈ before, IsSoundLine l) ∧ Offends (before.length + 1) line e) := by
  have all := lines_of_decodeUtf8 text
  constructor
  · intro records
    rw [records_eq_ok_iff, all]
    exact readable_iff
  · intro e
    rw [LogFile.records, recordsFrom_eq_error_iff, all]
    constructor
    · rintro ⟨before, l, after, split, readable, stops⟩
      obtain ⟨front, rest, texts, rfl, tail⟩ := List.map_eq_append_iff.1 split
      obtain ⟨line, back, rfl, rfl, rfl⟩ := List.map_eq_cons_iff.1 tail
      refine ⟨front, line, back, texts, ?_, offends_iff.2 ?_⟩
      · exact fun l mem => isSoundLine_iff.2 (readable _ (List.mem_map_of_mem mem))
      · rw [← stops, List.length_map, Nat.add_comm]
    · rintro ⟨before, line, after, split, sound, offends⟩
      refine ⟨before.map Line.ofText, Line.ofText line, after.map Line.ofText, ?_, ?_, ?_⟩
      · rw [split, List.map_append, List.map_cons]
      · exact List.forall_mem_map.2 fun l mem => isSoundLine_iff.1 (sound l mem)
      · rw [List.length_map, Nat.add_comm]
        exact offends_iff.1 offends

/-- A record before a line end with a carriage return is read over the blank line that follows it.
Where a line that is no record follows these, nothing is read, and the third line is reported. -/
theorem records_all_or_nothing_third :
    ∃ (r : SnapshotRecord) (good bad : List Char),
      Text.linesOf good = [r.json.renderChars, [' ']] ∧
      bad = good ++ "not json".toList ∧
      Text.decodeUtf8 (Text.encodeUtf8 good) = some good ∧
      Text.decodeUtf8 (Text.encodeUtf8 bad) = some bad ∧
      (LogFile.records "log" (Text.encodeUtf8 good)).value = .ok [r] ∧
      (LogFile.records "log" (Text.encodeUtf8 bad)).value
        = .error (.malformedRecord 3 noRecord) := by
  let content := "1,0,1,-1,2:3,,,,-1,-1"
  let r : SnapshotRecord := ⟨1, content, checksum 1 content, .epoch⟩
  let line := r.json.renderChars
  let good := (line ++ ['\r']) ++ '\n' :: " \n".toList
  let bad := good ++ "not json".toList
  have filled : Text.isAllBlank line = false := isAllBlank_append_renderChars [] r
  have read : recordOn? ([] ++ r.json.renderChars) = some r :=
    recordOn?_renderChars (List.forall_mem_nil _) Instant.epoch_isValid
  rw [List.nil_append] at read
  have first (rest : List Char) :
      Text.linesOf ((line ++ ['\r']) ++ '\n' :: rest) = line :: Text.linesOf rest := by
    have one : '\n' ∉ line ++ ['\r'] := by
      simpa using SnapshotRecord.newline_notMem_renderChars r
    rw [Text.linesOf_append_lineFeed one]
    simp [Text.withoutReturn]
  have lines : Text.linesOf good = [line, [' ']] := first _
  have more : Text.linesOf bad = [line, [' ']] ++ "not json".toList :: [] := by
    rw [show bad = (line ++ ['\r']) ++ '\n' :: " \nnot json".toList by simp [bad, good]]
    exact first _
  have decoded (s : List Char) := Text.decodeUtf8_encodeUtf8 s
  refine ⟨r, good, bad, lines, rfl, decoded good, decoded bad,
    ((records_all_or_nothing (decoded good)).1 [r]).2 ?_,
    ((records_all_or_nothing (decoded bad)).2 _).2 ⟨_, _, _, more, ?_, ?_⟩⟩
  · rw [lines, areRecords_cons_of_filled filled]
    refine ⟨r, [], read, rfl, rfl, ?_⟩
    rw [areRecords_cons_of_blank rfl]
    exact ⟨rfl, List.forall_mem_nil _⟩
  · exact List.forall_mem_cons.2 ⟨.inr ⟨r, read, rfl⟩, List.forall_mem_singleton.2 (.inl rfl)⟩
  · exact .malformed rfl rfl

end ReplicaQuorum.LogFile
