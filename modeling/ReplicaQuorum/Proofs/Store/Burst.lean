import ReplicaQuorum.Proofs.Store.Checksum
import ReplicaQuorum.Proofs.Store.Log

/-!
# Bursts in a log

A burst alters the segment and the content of a record in 32 bits in a row at most. The checksum
that the record was given does not fit it any more, and so a log with the record on one of its
lines is not read: the first such line is reported by its number. Moving a record to another
segment is a burst as long as both segments have small identifiers.
-/

namespace ReplicaQuorum

variable {segment segment' : SegmentId} {content content' : String}

/-- A burst: another segment or another content of the same size, and the bytes that the checksum
covers differ in 32 bits in a row at most. -/
structure Burst (segment : SegmentId) (content : String) (segment' : SegmentId)
    (content' : String) : Prop where
  altered : segment' ≠ segment ∨ content' ≠ content
  size_eq : content'.utf8ByteSize = content.utf8ByteSize
  window : Crc.DifferInBurst (Crc.bits (checkedBytes segment content))
    (Crc.bits (checkedBytes segment' content'))

namespace Burst

/-- No burst leaves the checksum as it was. -/
theorem checksum_ne (burst : Burst segment content segment' content') :
    checksum segment content ≠ checksum segment' content' := by
  have length : (Crc.bits (checkedBytes segment content)).length
      = (Crc.bits (checkedBytes segment' content')).length := by
    rw [length_bits_checkedBytes, length_bits_checkedBytes, burst.size_eq]
  have ne : Crc.bits (checkedBytes segment content)
      ≠ Crc.bits (checkedBytes segment' content') := by
    intro same
    obtain ⟨rfl, rfl⟩ := checkedBytes_inj.1 (Crc.bits_injective same)
    exact burst.altered.elim (fun ne => ne rfl) (fun ne => ne rfl)
  intro same
  exact Crc.shifts_ne_of_burst length burst.window ne (Crc.ofBytes_eq_iff.1 same)

/-- A record that is moved between segments with small identifiers suffers a burst. -/
lemma of_moved (ne : segment' ≠ segment) (small : segment.toNat < 2 ^ 32)
    (small' : segment'.toNat < 2 ^ 32) (content : String) :
    Burst segment content segment' content where
  altered := .inl ne
  size_eq := rfl
  window := by
    have low {n : SegmentId} (small : n.toNat < 2 ^ 32) : checkedBytes n content
        = [] ++ (bytesOfWord n).take 4 ++
          (List.replicate 4 0 ++ Text.encodeUtf8 content.toList) := by
      rw [checkedBytes, ← drop_bytesOfWord small, List.nil_append, ← List.append_assoc,
        List.take_append_drop]
    rw [low small, low small']
    exact Crc.differInBurst_of_bytes (by simp [length_bytesOfWord]) (List.length_take_le _ _)

end Burst

namespace LogFile

variable {path : String} {log : List UInt8} {l : Line} {r : SnapshotRecord}

/-- The record that stands on a line, whether its checksum fits or not. -/
def Line.held? : Line → Option SnapshotRecord
  | corrupt r | intact r => some r
  | _ => none

/-- A line that is not blank holds the record that is on it. -/
lemma Line.held?_ofText {s : List Char} (filled : Text.isAllBlank s = false) :
    (Line.ofText s).held? = recordOn? s := by
  have on := isOn_ofText s
  generalize Line.ofText s = l at on
  cases on with
  | blank blank => cases blank.symm.trans filled
  | malformed _ unread => exact unread.symm
  | corrupt _ read | intact _ read => exact read.symm

/-- A record stands on the line that is written for it, whether its checksum fits or not. -/
lemma Line.held?_bytesOf (dated : r.persistedAt.IsValid) :
    (Line.ofBytes (bytesOf r)).held? = some r := by
  have read : recordOn? ([] ++ r.json.renderChars) = some r :=
    recordOn?_renderChars (List.forall_mem_nil _) dated
  have printed : Text.isAllBlank r.json.renderChars = false := isAllBlank_append_renderChars [] r
  rw [bytesOf, ofBytes_of_decodeUtf8 (Text.decodeUtf8_encodeUtf8 _), held?_ofText printed]
  exact read

/-- The checksum fits the record on an intact line. -/
lemma Line.isIntact_of_mem_lines (mem : .intact r ∈ lines log) : r.isIntact := by
  obtain ⟨bytes, -, line⟩ := List.mem_map.1 mem
  unfold Line.ofBytes at line
  split at line
  · cases line
  · cases isOn_of_ofText line with
    | intact _ _ fits => exact SnapshotRecord.isIntact_iff.2 fits

/-- A record whose checksum does not fit stands on a corrupt line. -/
lemma Line.eq_corrupt_of_mem_lines (mem : l ∈ lines log) (held : l.held? = some r)
    (unfit : ¬r.isIntact) : l = .corrupt r := by
  cases l with
  | corrupt k =>
    cases held
    rfl
  | intact k =>
    cases held
    exact absurd (isIntact_of_mem_lines mem) unfit
  | _ => cases held

/-- A log is not read further than to the first corrupt line. -/
lemma records_of_corrupt {before rest : List Line} (readable : ∀ l ∈ before, l.isReadable)
    (split : lines log = before ++ .corrupt r :: rest) :
    records path log =
      ⟨.error (.checksumMismatch (before.length + 1) r.crc32 (checksum r.segment r.content)),
        [corrupted path (before.length + 1) r]⟩ := by
  rw [records, split, recordsFrom_append readable, Nat.add_comm 1]
  rfl

/-- A burst is always detected. No checksum of a record fits what a burst makes of the record, and
where that stands in a log instead of the record, the log is not read and its line is reported. A
move between segments with identifiers below `2 ^ 32` is a burst. -/
theorem burst_detected :
    (∀ segment content segment' content', Burst segment content segment' content' →
      verifies segment' content' (checksum segment content) = false) ∧
    (∀ path log altered before after rest l r r' read,
      (records path log).value = .ok read →
      lines log = before ++ .intact r :: after →
      lines altered = before ++ l :: rest → l.held? = some r' →
      r'.crc32 = r.crc32 → Burst r.segment r.content r'.segment r'.content →
      records path altered =
        ⟨.error (.checksumMismatch (before.length + 1) r.crc32 (checksum r'.segment r'.content)),
          [corrupted path (before.length + 1) r']⟩) ∧
    (∀ (segment segment' : SegmentId) (content : String), segment' ≠ segment →
      segment.toNat < 2 ^ 32 → segment'.toNat < 2 ^ 32 →
      Burst segment content segment' content) := by
  refine ⟨?_, ?_, fun _ _ content ne small small' => .of_moved ne small small' content⟩
  · intro segment content segment' content' burst
    exact decide_eq_false burst.checksum_ne.symm
  · intro path log altered before after rest l r r' read intact split split' held stored burst
    have readable : ∀ k ∈ before, k.isReadable := fun k mem =>
      (records_eq_ok_iff.1 intact).1 k (split ▸ List.mem_append_left _ mem)
    have fits : checksum r.segment r.content = r.crc32 :=
      of_decide_eq_true (Line.isIntact_of_mem_lines (split ▸ List.mem_append_right _ (by simp)))
    have unfit : ¬r'.isIntact := by
      rw [SnapshotRecord.isIntact, verifies, decide_eq_true_iff, stored, ← fits]
      exact burst.checksum_ne.symm
    have corrupt : l = .corrupt r' :=
      Line.eq_corrupt_of_mem_lines (split' ▸ List.mem_append_right _ (by simp)) held unfit
    rw [records_of_corrupt readable (corrupt ▸ split'), stored]

/-- Two members that change places in a content are detected, and so is a record that is moved
to the next segment, on the second line of its log. -/
theorem burst_detected_moved :
    ∃ kept r moved : SnapshotRecord, r.content = "1,0,1,-1,2:3,,,,-1,-1" ∧
      verifies r.segment "1,0,1,-1,3:2,,,,-1,-1" (checksum r.segment r.content) = false ∧
      r.segment = 1 ∧ moved = { r with segment := 2 } ∧
      (records "log" (append (append [] kept) r)).value = .ok [kept, r] ∧
      records "log" (append (append [] kept) moved) =
        ⟨.error (.checksumMismatch 2 r.crc32 (checksum 2 r.content)),
          [corrupted "log" 2 moved]⟩ := by
  obtain ⟨detected, reported, small⟩ := burst_detected
  let content := "1,0,1,-1,2:3,,,,-1,-1"
  let record (segment : SegmentId) : SnapshotRecord :=
    ⟨segment, content, checksum segment content, .epoch⟩
  have sound (segment : SegmentId) : (record segment).IsSound :=
    ⟨decide_eq_true rfl, Instant.epoch_isValid⟩
  let moved : SnapshotRecord := { record 1 with segment := 2 }
  -- the log before the line in question
  let log := append [] (record 7)
  have start : IsContinuable [] := isContinuable_of_openLine_eq_nil rfl
  have ended : Text.openLine log = [] := openLine_append [] (record 7)
  have one : records "log" log = ⟨.ok [record 7], []⟩ := records_append start rfl (sound 7)
  have before : closed log = [.intact (record 7)] := by
    have all : lines log = closed log ++ [] := by rw [lines_eq_closed, if_pos ended]
    rw [List.append_nil] at all
    rw [← all, lines_append, start.ofBytes_append (sound 7), closed_eq_nil (by simp),
      List.nil_append]
  have after (r : SnapshotRecord) :
      lines (append log r) = [.intact (record 7)] ++ [Line.ofBytes (bytesOf r)] := by
    rw [lines_append, before, ended, List.nil_append]
  have continuable : IsContinuable log := isContinuable_of_openLine_eq_nil ended
  have intact : Line.ofBytes (bytesOf (record 1)) = .intact (record 1) := by
    simpa only [ended, List.nil_append] using continuable.ofBytes_append (sound 1)
  have both : (records "log" (append log (record 1))).value = .ok [record 7, record 1] := by
    rw [records_append continuable (by rw [one]) (sound 1)]
    rfl
  refine ⟨record 7, record 1, moved, rfl, ?_, rfl, rfl, both, ?_⟩
  · have place : checkedBytes 1 content = bytesOfWord 1 ++ Text.encodeUtf8 "1,0,1,-1,".toList
        ++ Text.encodeUtf8 "2:3".toList ++ Text.encodeUtf8 ",,,,-1,-1".toList := by decide
    have place' : checkedBytes 1 "1,0,1,-1,3:2,,,,-1,-1"
        = bytesOfWord 1 ++ Text.encodeUtf8 "1,0,1,-1,".toList
          ++ Text.encodeUtf8 "3:2".toList ++ Text.encodeUtf8 ",,,,-1,-1".toList := by decide
    refine detected 1 content 1 _ ⟨.inr (by decide), by decide, ?_⟩
    rw [place, place']
    exact Crc.differInBurst_of_bytes (by decide) (by decide)
  · exact reported "log" (append log (record 1)) _ _ [] [] _ (record 1) moved _ both
      (intact ▸ after (record 1)) (after moved) (Line.held?_bytesOf Instant.epoch_isValid) rfl
      (small 1 2 content (by decide) (by decide) (by decide))

end LogFile

end ReplicaQuorum
