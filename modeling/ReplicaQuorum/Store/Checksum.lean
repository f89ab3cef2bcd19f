import ReplicaQuorum.Text.Lines
import ReplicaQuorum.Word

/-!
# Checksums

The CRC-32 of a record: a shift register over the bits of the segment's eight bytes and the bytes of
the content, the least significant bit of each byte first. The segment goes in first, so that a
record that is moved to another segment does not verify.
-/

namespace ReplicaQuorum

namespace Crc

/-- The generator polynomial, its lowest power in the highest bit. -/
def polynomial : BitVec 32 := 0xEDB88320#32

/-- The register after one more bit. -/
def shift (register : BitVec 32) (bit : Bool) : BitVec 32 :=
  if register.getLsbD 0 ^^ bit then (register >>> 1) ^^^ polynomial else register >>> 1

/-- The register after some bits. -/
def shifts (register : BitVec 32) (bits : List Bool) : BitVec 32 :=
  bits.foldl shift register

/-- The bits of a byte, the least significant one first. -/
def bitsOfByte (b : UInt8) : List Bool :=
  (List.range 8).map fun i => b.toBitVec.getLsbD i

/-- The bits of some bytes. -/
def bits (bytes : List UInt8) : List Bool :=
  bytes.flatMap bitsOfByte

/-- The checksum of some bytes. -/
def ofBytes (bytes : List UInt8) : UInt32 :=
  UInt32.ofBitVec (~~~ shifts (BitVec.allOnes 32) (bits bytes))

end Crc

/-- The bytes of a word, the least significant one first. -/
def bytesOfWord (n : UInt64) : List UInt8 :=
  (List.range 8).map fun i => UInt8.ofNat (n.toNat >>> (8 * i))

/-- The bytes of a record that its checksum covers. -/
def checkedBytes (segment : SegmentId) (content : String) : List UInt8 :=
  bytesOfWord segment ++ Text.encodeUtf8 content.toList

/-- The checksum of a record. -/
def checksum (segment : SegmentId) (content : String) : UInt32 :=
  Crc.ofBytes (checkedBytes segment content)

/-- A checksum fits a record. -/
def verifies (segment : SegmentId) (content : String) (expected : UInt32) : Bool :=
  checksum segment content = expected

end ReplicaQuorum
