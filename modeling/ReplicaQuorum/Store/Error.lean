import ReplicaQuorum.Error
import ReplicaQuorum.Text.Hex

/-!
# Store errors

What goes wrong while replica sets are persisted and loaded. Corrupt records are fatal, and so are
contents that stand for a replica set that cannot be.
-/

namespace ReplicaQuorum

/-- What went wrong in a store. -/
inductive StoreError where
  | io (reason : String)
  | checksumMismatch (line : Nat) (stored computed : UInt32)
  | malformedRecord (line : Nat) (reason : String)
  | staleVersion (segment : SegmentId) (offered persisted : Version)
  | unknownSegment (segment : SegmentId)
  | content (e : MembershipError)
deriving DecidableEq

namespace StoreError

/-- A checksum in eight hexadecimal digits. -/
def checksumText (n : UInt32) : String :=
  String.ofList (Text.hexPadded 8 n.toNat)

/-- What is reported of an error. -/
def message : StoreError → String
  | io reason => s!"I/O error: {reason}"
  | checksumMismatch line stored computed =>
    s!"checksum mismatch at line {line}: stored {checksumText stored}, "
      ++ s!"computed {checksumText computed}"
  | malformedRecord line reason => s!"malformed record at line {line}: {reason}"
  | staleVersion segment offered persisted =>
    s!"segment {segment}: {offered.text} is older than persisted {persisted.text}"
  | unknownSegment segment => s!"no membership installed for segment {segment}"
  | content e => s!"membership content: {e.describe}"

/-- The error must stop the caller. -/
def isFatal : StoreError → Bool
  | checksumMismatch .. => true
  | content e => e.isFatal
  | _ => false

end StoreError

end ReplicaQuorum
