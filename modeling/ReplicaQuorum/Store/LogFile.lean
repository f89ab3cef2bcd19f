import ReplicaQuorum.Journal.Logged
import ReplicaQuorum.Json.Read
import ReplicaQuorum.Store.Record
import ReplicaQuorum.Text.Blank

/-!
# Log files

An append-only log of records, one on each line. Reading a log is all or nothing: the first line
that holds no record, or one whose checksum does not fit, decides the outcome. Lines of blanks are
skipped and counted.
-/

namespace ReplicaQuorum.LogFile

/-- The line of a record, with its line feed. -/
def lineOf (r : SnapshotRecord) : List UInt8 :=
  Text.encodeUtf8 (r.json.renderChars ++ ['\n'])

/-- The log with one more record. -/
def append (log : List UInt8) (r : SnapshotRecord) : List UInt8 :=
  log ++ lineOf r

/-- What a line of a log holds. -/
inductive Line where
  | undecodable
  | blank
  | malformed
  | corrupt (r : SnapshotRecord)
  | intact (r : SnapshotRecord)
deriving DecidableEq, Repr

/-- What the text of a line holds. -/
def Line.ofText (s : List Char) : Line :=
  if Text.isAllBlank s then blank
  else
    match (Json.read? s).bind SnapshotRecord.ofJson? with
    | none => malformed
    | some r => if r.isIntact then intact r else corrupt r

/-- What the bytes of a line hold. -/
def Line.ofBytes (bytes : List UInt8) : Line :=
  match Text.decodeUtf8 bytes with
  | none => undecodable
  | some s => ofText s

/-- The lines of a log. -/
def lines (log : List UInt8) : List Line :=
  (Text.lines log).map Line.ofBytes

/-- The reason that is given for every line without a record. It stands for the account that the
reader of the line gives of what it found there instead, which is not kept. -/
def noRecord : String :=
  "not a snapshot record"

/-- The notice of a record whose checksum does not fit. -/
def corrupted (path : String) (number : Nat) (r : SnapshotRecord) : Notice :=
  Notice.ofEvent .fatal .snapshotCorrupted
    [("path", path), ("line", toString number), ("segment", toString r.segment)]

/-- The records on the lines from the one with the given number on. -/
def recordsFrom (path : String) (number : Nat) :
    List Line → Logged (Except StoreError (List SnapshotRecord))
  | [] => ⟨.ok [], []⟩
  | .undecodable :: _ => ⟨.error (.io "stream did not contain valid UTF-8"), []⟩
  | .malformed :: _ => ⟨.error (.malformedRecord number noRecord), []⟩
  | .corrupt r :: _ =>
    ⟨.error (.checksumMismatch number r.crc32 (checksum r.segment r.content)),
      [corrupted path number r]⟩
  | .blank :: rest => recordsFrom path (number + 1) rest
  | .intact r :: rest =>
    let others := recordsFrom path (number + 1) rest
    ⟨others.value.map (r :: ·), others.notices⟩

/-- The records of a log, in order. -/
def records (path : String) (log : List UInt8) :
    Logged (Except StoreError (List SnapshotRecord)) :=
  recordsFrom path 1 (lines log)

end ReplicaQuorum.LogFile
