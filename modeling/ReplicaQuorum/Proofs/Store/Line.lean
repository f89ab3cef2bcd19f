import ReplicaQuorum.Proofs.Instant
import ReplicaQuorum.Proofs.Json.Extension
import ReplicaQuorum.Proofs.Json.ReadBack
import ReplicaQuorum.Proofs.Text.Lines
import ReplicaQuorum.Store.LogFile

/-!
# Lines of a log

The line of a record holds the record, also with spaces before it. A record that is written onto a
line on which another one stands, or blanks that are no spaces of the format, leaves a line that
holds nothing.
-/

namespace ReplicaQuorum

variable {now : Instant} {segment : SegmentId} {m : ReplicaSet} {r : SnapshotRecord}
  {spaces s : List Char} {bytes : List UInt8}

namespace SnapshotRecord

/-- A record as a sink makes one: with its own checksum, at an instant that a clock shows. -/
structure IsSound (r : SnapshotRecord) : Prop where
  intact : r.isIntact
  dated : r.persistedAt.IsValid

/-- The record of a replica set is sound where its instant can be written. -/
lemma isSound_ofReplicaSet (valid : now.IsValid) : (ofReplicaSet now segment m).IsSound where
  intact := by simp [isIntact, verifies, ofReplicaSet]
  dated := valid

/-- The members of a record's object. -/
abbrev members (r : SnapshotRecord) : List (String × Json) :=
  [("segment", .nat r.segment.toNat), ("content", .text r.content),
   ("crc32", .nat r.crc32.toNat), ("persisted_at", .text r.persistedAt.recordText)]

/-- The fields of a record are scalars. -/
lemma isScalar_of_mem_members {p : String × Json} (mem : p ∈ r.members) : p.2.IsScalar := by
  simp only [List.mem_cons, List.not_mem_nil, or_false] at mem
  rcases mem with rfl | rfl | rfl | rfl
  · exact .nat _
  · exact .text _
  · exact .nat _
  · exact .text _

/-- A record is read back from its object if its instant can be written. -/
lemma ofJson?_json (dated : r.persistedAt.IsValid) : ofJson? r.json = some r := by
  have fields : r.json.fields? ["segment", "content", "crc32", "persisted_at"] =
      some [some (.nat r.segment.toNat), some (.text r.content), some (.nat r.crc32.toNat),
        some (.text r.persistedAt.recordText)] := by
    have distinct : (r.members.map Prod.fst).Nodup :=
      (by decide : ["segment", "content", "crc32", "persisted_at"].Nodup)
    exact Json.fields?_record distinct
  have instant : instantOfJson? (.text r.persistedAt.recordText) = some r.persistedAt := by
    rw [instantOfJson?, Json.asText?_text, Option.bind_some, Instant.read?_recordText dated]
  simp only [ofJson?, fields, Json.asUInt64?_nat, Json.asText?_text, Json.asUInt32?_nat, instant,
    Option.bind_eq_bind, Option.bind_some]

/-- The object of a record is read back, with blanks before it or without. -/
lemma read?_renderChars (space : ∀ c ∈ spaces, Json.isSpace c) :
    Json.read? (spaces ++ r.json.renderChars) = some r.json :=
  Json.read?_record space (List.cons_ne_nil _ _) fun _ => isScalar_of_mem_members

/-- A record is written without a line feed. -/
lemma newline_notMem_renderChars (r : SnapshotRecord) : '\n' ∉ r.json.renderChars :=
  Json.newline_notMem_record fun _ => isScalar_of_mem_members

/-- A record is intact exactly if its checksum is that of its segment and content. -/
lemma isIntact_iff : r.isIntact ↔ r.crc32 = checksum r.segment r.content := by
  rw [isIntact, verifies, decide_eq_true_eq, eq_comm]

/-- A record is written between braces. -/
lemma renderChars_eq (r : SnapshotRecord) :
    ∃ inside, r.json.renderChars = '\x7b' :: (inside ++ ['\x7d']) := by
  simp [json, Json.record, Json.renderChars]

end SnapshotRecord

namespace LogFile

open SnapshotRecord

/-! ## What a line is taken for -/

/-- The record that the text of a line stands for. -/
def recordOn? (line : List Char) : Option SnapshotRecord :=
  (Json.read? line).bind SnapshotRecord.ofJson?

/-- What the reader takes a text for. -/
inductive Line.IsOn (line : List Char) : Line → Prop where
  | blank (blank : Text.isAllBlank line) : IsOn line .blank
  | malformed (filled : Text.isAllBlank line = false) (unread : recordOn? line = none) :
    IsOn line .malformed
  | corrupt {r : SnapshotRecord} (filled : Text.isAllBlank line = false)
    (read : recordOn? line = some r) (unfit : r.crc32 ≠ checksum r.segment r.content) :
    IsOn line (.corrupt r)
  | intact {r : SnapshotRecord} (filled : Text.isAllBlank line = false)
    (read : recordOn? line = some r) (fits : r.crc32 = checksum r.segment r.content) :
    IsOn line (.intact r)

/-- A text has on it what it is taken for. -/
lemma isOn_ofText (line : List Char) : (Line.ofText line).IsOn line := by
  unfold Line.ofText
  split
  · next blank => exact .blank blank
  · next filled =>
    rw [Bool.not_eq_true] at filled
    split
    · next unread => exact .malformed filled unread
    · next r read =>
      split
      · next intact => exact .intact filled read (isIntact_iff.1 intact)
      · next corrupt => exact .corrupt filled read (mt isIntact_iff.2 corrupt)

/-- What a text is taken for is on it. -/
lemma isOn_of_ofText {l : Line} (taken : Line.ofText s = l) : l.IsOn s :=
  taken ▸ isOn_ofText s

/-! ## The line of a record -/

/-- The bytes of a record's line, without the line feed. -/
def bytesOf (r : SnapshotRecord) : List UInt8 :=
  Text.encodeUtf8 r.json.renderChars

/-- A line ends in a line feed. -/
lemma lineOf_eq (r : SnapshotRecord) : lineOf r = bytesOf r ++ [Text.lineFeed] := by
  rw [lineOf, Text.encodeUtf8_append]
  rfl

/-- The bytes of a record have no line feed. -/
lemma lineFeed_notMem_bytesOf (r : SnapshotRecord) : Text.lineFeed ∉ bytesOf r :=
  Text.lineFeed_notMem_encodeUtf8 (newline_notMem_renderChars r)

/-- The bytes of a record are not none. -/
lemma bytesOf_ne_nil (r : SnapshotRecord) : bytesOf r ≠ [] := by
  obtain ⟨inside, eq⟩ := renderChars_eq r
  rw [bytesOf, eq, ← List.singleton_append, Text.encodeUtf8_append]
  exact List.append_ne_nil_of_left_ne_nil (by decide) _

/-- The bytes of a record do not end in a carriage return. -/
lemma getLast_bytesOf (r : SnapshotRecord) :
    ∀ b ∈ (bytesOf r).getLast?, b ≠ Text.carriageReturn := by
  obtain ⟨inside, eq⟩ := renderChars_eq r
  have brace : Text.encodeUtf8 ['\x7d'] = [0x7d] := by decide
  rw [bytesOf, eq, ← List.cons_append, Text.encodeUtf8_append, brace, List.getLast?_concat]
  rintro _ ⟨⟩
  decide

/-- A line with a record on it is not blank, whatever stands before the record. -/
lemma isAllBlank_append_renderChars (s : List Char) (r : SnapshotRecord) :
    Text.isAllBlank (s ++ r.json.renderChars) = false := by
  obtain ⟨inside, eq⟩ := renderChars_eq r
  have brace : Text.isBlank '\x7b' = false := by decide
  simp [Text.isAllBlank, eq, brace]

/-- A record is found on its line, with blanks before it or without. -/
lemma recordOn?_renderChars (space : ∀ c ∈ spaces, Json.isSpace c)
    (dated : r.persistedAt.IsValid) : recordOn? (spaces ++ r.json.renderChars) = some r := by
  rw [recordOn?, read?_renderChars space, Option.bind_some, ofJson?_json dated]

/-- The line of a record holds the record, also with spaces before it. -/
lemma ofText_renderChars (space : ∀ c ∈ spaces, Json.isSpace c) (sound : r.IsSound) :
    Line.ofText (spaces ++ r.json.renderChars) = .intact r := by
  rw [Line.ofText, isAllBlank_append_renderChars, read?_renderChars space]
  simp only [Option.bind_some, ofJson?_json sound.dated, sound.intact, if_true]
  rfl

/-- A line that holds a record holds nothing once another one is written onto it. -/
lemma ofText_append_of_intact {k : SnapshotRecord} (held : Line.ofText s = .intact k)
    (r : SnapshotRecord) : Line.ofText (s ++ r.json.renderChars) = .malformed := by
  cases isOn_of_ofText held with
  | intact _ denoted =>
    obtain ⟨v, read, ofJson⟩ := Option.bind_eq_some_iff.1 denoted
    have no_number : ∀ a, v ≠ .number a := by
      rintro a rfl
      cases ofJson
    have printed : Json.skipSpace r.json.renderChars ≠ [] := by
      obtain ⟨inside, eq⟩ := renderChars_eq r
      rw [eq, Json.skipSpace_cons rfl]
      exact List.cons_ne_nil _ _
    rw [Line.ofText, isAllBlank_append_renderChars,
      Json.read?_append_eq_none read no_number printed]
    rfl

/-- A line of blanks that are not all spaces of the format holds nothing once a record is written
onto it. -/
lemma ofText_append_of_blank (blank : Text.isAllBlank s = true) (other : ∃ c ∈ s, ¬Json.isSpace c)
    (r : SnapshotRecord) : Line.ofText (s ++ r.json.renderChars) = .malformed := by
  cases skipped : Json.skipSpace s with
  | nil =>
    obtain ⟨c, mem, printed⟩ := other
    exact absurd (List.dropWhile_eq_nil_iff.1 skipped c mem) printed
  | cons c rest =>
    have mem : c ∈ s := (List.dropWhile_suffix _).subset (skipped ▸ List.mem_cons_self)
    have none : Json.read? (s ++ r.json.renderChars) = none :=
      Json.read?_eq_none_of_blank (Json.skipSpace_append skipped _) (List.all_eq_true.1 blank c mem)
    rw [Line.ofText, isAllBlank_append_renderChars, none]
    rfl

end LogFile

end ReplicaQuorum
