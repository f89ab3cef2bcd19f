import Mathlib.Algebra.Group.Nat.Defs
import Mathlib.Data.List.Basic
import ReplicaQuorum.Store.Checksum

/-!
# What a checksum detects

A step of the register loses nothing: it is linear, and no register but zero goes to zero. Up to 32
bits that are shifted in act as if they had been written into the register beforehand, and so two
different ones leave different registers, whatever was shifted in before and whatever is shifted in
after them. Hence no corruption escapes the checksum that stays within 32 bits in a row.
-/

namespace ReplicaQuorum

namespace Crc

variable {r s : BitVec 32} {bit : Bool} {x y before window window' after : List Bool}

/-! ## The register -/

/-- A step is linear in the register and the bit together. -/
lemma shift_xor (r s : BitVec 32) (bit bit' : Bool) :
    shift (r ^^^ s) (bit ^^ bit') = shift r bit ^^^ shift s bit' := by
  have cancel (a b p : BitVec 32) : a ^^^ p ^^^ (b ^^^ p) = a ^^^ b := by
    rw [BitVec.xor_comm b p, ← BitVec.xor_assoc, BitVec.xor_assoc a p p, BitVec.xor_self,
      BitVec.xor_zero]
  have parity : ((r ^^^ s).getLsbD 0 ^^ (bit ^^ bit'))
      = ((r.getLsbD 0 ^^ bit) ^^ (s.getLsbD 0 ^^ bit')) := by
    rw [BitVec.getLsbD_xor, Bool.xor_assoc, Bool.xor_left_comm _ bit, ← Bool.xor_assoc]
  rw [shift, shift, shift, parity, BitVec.ushiftRight_xor_distrib]
  cases r.getLsbD 0 ^^ bit <;> cases s.getLsbD 0 ^^ bit'
  · rfl
  · exact BitVec.xor_assoc _ _ _
  · show r >>> 1 ^^^ s >>> 1 ^^^ polynomial = r >>> 1 ^^^ polynomial ^^^ s >>> 1
    ac_rfl
  · exact (cancel _ _ _).symm

/-- No register but zero goes to zero: where the polynomial is added, it fills the highest bit. -/
lemma eq_zero_of_shift (gone : shift r false = 0#32) : r = 0#32 := by
  rw [shift, Bool.xor_false] at gone
  by_cases low : r.getLsbD 0
  · rw [if_pos low] at gone
    have high : ((r >>> 1) ^^^ polynomial).getLsbD 31 = true := by
      rw [BitVec.getLsbD_xor, BitVec.getLsbD_ushiftRight, BitVec.getLsbD_of_ge r _ (by decide)]
      decide
    rw [gone] at high
    cases high
  · rw [if_neg low] at gone
    apply BitVec.eq_of_getLsbD_eq
    intro i _
    cases i with
    | zero => simpa using low
    | succ i =>
      have next : (r >>> 1).getLsbD i = false := by rw [gone]; simp
      simpa [BitVec.getLsbD_ushiftRight, Nat.add_comm 1 i] using next

/-- A step leads to the same register only from the same one. -/
lemma shift_injective (bit : Bool) : Function.Injective fun r => shift r bit := by
  intro r s same
  have gone : shift (r ^^^ s) (bit ^^ bit) = 0#32 := by
    rw [shift_xor, show shift r bit = shift s bit from same, BitVec.xor_self]
  rw [Bool.xor_self] at gone
  exact BitVec.xor_eq_zero_iff.1 (eq_zero_of_shift gone)

/-- The register takes in the bits one after the other. -/
lemma shifts_append (r : BitVec 32) (x y : List Bool) :
    shifts r (x ++ y) = shifts (shifts r x) y :=
  List.foldl_append

/-- Different registers stay different. -/
lemma shifts_injective (x : List Bool) : Function.Injective fun r => shifts r x := by
  induction x with
  | nil => exact fun _ _ same => same
  | cons bit x ih => exact ih.comp (shift_injective bit)

/-! ## Bits in a row -/

/-- The register that some bits are written into, the first one lowest. -/
def load (bits : List Bool) : BitVec 32 :=
  (BitVec.ofBoolListLE bits).setWidth 32

/-- The bits that are loaded stand in the register in their order. -/
lemma getLsbD_load {i : Nat} (x : List Bool) (low : i < 32) :
    (load x).getLsbD i = x.getD i false := by
  rw [load, BitVec.getLsbD_setWidth, BitVec.getLsbD_ofBoolListLE, decide_eq_true low,
    Bool.true_and]

/-- The lowest of the bits that were written goes out against itself. -/
lemma shift_load (short : (bit :: x).length ≤ 32) : shift (load (bit :: x)) bit = load x := by
  have low : (load (bit :: x)).getLsbD 0 = bit := getLsbD_load _ (by decide)
  rw [shift, low, Bool.xor_self, if_neg Bool.false_ne_true]
  apply BitVec.eq_of_getLsbD_eq
  intro i lt
  rw [BitVec.getLsbD_ushiftRight, getLsbD_load x lt, Nat.add_comm]
  rcases Nat.lt_or_ge (i + 1) 32 with lt | ge
  · exact getLsbD_load _ lt
  · have past : x.length ≤ i := by
      rw [List.length_cons] at short
      omega
    rw [BitVec.getLsbD_of_ge _ _ ge, List.getD_eq_getElem?_getD, List.getElem?_eq_none past]
    rfl

/-- Up to 32 bits that are shifted in act as if they had been written into the register before. -/
lemma shifts_eq_load (r : BitVec 32) (x : List Bool) (short : x.length ≤ 32) :
    shifts r x = shifts (r ^^^ load x) (List.replicate x.length false) := by
  induction x generalizing r with
  | nil => simp [shifts, load, BitVec.ofBoolListLE]
  | cons bit x ih =>
    have first : shift (r ^^^ load (bit :: x)) false = shift r bit ^^^ load x := by
      rw [← Bool.xor_self bit, shift_xor, shift_load short]
    have rest : x.length ≤ 32 := Nat.le_of_succ_le short
    calc shifts r (bit :: x)
      _ = shifts (shift r bit) x := rfl
      _ = shifts (shift r bit ^^^ load x) (List.replicate x.length false) := ih _ rest
      _ = shifts (shift (r ^^^ load (bit :: x)) false) (List.replicate x.length false) := by
        rw [first]
      _ = shifts (r ^^^ load (bit :: x)) (List.replicate (bit :: x).length false) := rfl

/-- Short windows that load the same are the same. -/
lemma eq_of_load_eq (length : x.length = y.length) (short : x.length ≤ 32)
    (same : load x = load y) : x = y := by
  apply List.ext_getElem length
  intro i ltX ltY
  have bit : (load x).getLsbD i = (load y).getLsbD i := by rw [same]
  rw [getLsbD_load x (by omega), getLsbD_load y (by omega)] at bit
  simpa [List.getD_eq_getElem?_getD, ltX, ltY] using bit

/-- Different windows of up to 32 bits leave different registers. -/
theorem shifts_ne_of_window_ne (length : window.length = window'.length)
    (short : window.length ≤ 32) (ne : window ≠ window') :
    shifts r (before ++ window ++ after) ≠ shifts r (before ++ window' ++ after) := by
  intro same
  simp only [shifts_append] at same
  have through := shifts_injective after same
  rw [shifts_eq_load _ window short, shifts_eq_load _ window' (length ▸ short), length] at through
  have loaded := (BitVec.xor_right_inj _).1 (shifts_injective _ through)
  exact ne (eq_of_load_eq length short loaded)

/-- Bits differ within a burst: from some place on, in 32 bits in a row at most. -/
def DifferInBurst (x y : List Bool) : Prop :=
  ∃ start, ∀ i, x[i]? ≠ y[i]? → start ≤ i ∧ i < start + 32

/-- Bits differ within a burst where one window of up to 32 of them does not stay as it was. -/
lemma differInBurst_of_window (length : window.length = window'.length)
    (short : window.length ≤ 32) :
    DifferInBurst (before ++ window ++ after) (before ++ window' ++ after) := by
  refine ⟨before.length, fun i differ => ?_⟩
  by_contra outside
  rw [not_and_or, Nat.not_le, Nat.not_lt] at outside
  apply differ
  rw [List.append_assoc, List.append_assoc]
  rcases outside with lt | ge
  · rw [List.getElem?_append_left lt, List.getElem?_append_left lt]
  · rw [List.getElem?_append_right (by omega), List.getElem?_append_right (by omega),
      List.getElem?_append_right (by omega), List.getElem?_append_right (by omega), length]

/-- No burst escapes the register. -/
theorem shifts_ne_of_burst (length : x.length = y.length) (burst : DifferInBurst x y)
    (ne : x ≠ y) : shifts r x ≠ shifts r y := by
  obtain ⟨start, inside⟩ := burst
  have same {i : Nat} (outside : ¬(start ≤ i ∧ i < start + 32)) : x[i]? = y[i]? :=
    Decidable.of_not_not fun differ => outside (inside i differ)
  have cut (z : List Bool) :
      z = z.take start ++ (z.drop start).take 32 ++ z.drop (start + 32) := by
    rw [List.append_assoc, ← List.drop_drop, List.take_append_drop, List.take_append_drop]
  have first : x.take start = y.take start := by
    apply List.ext_getElem?
    intro i
    rw [List.getElem?_take, List.getElem?_take]
    split
    · exact same (by omega)
    · rfl
  have last : x.drop (start + 32) = y.drop (start + 32) := by
    apply List.ext_getElem?
    intro i
    rw [List.getElem?_drop, List.getElem?_drop]
    exact same (by omega)
  have windows : (x.drop start).take 32 ≠ (y.drop start).take 32 := by
    intro window
    exact ne (by rw [cut x, cut y, first, window, last])
  rw [cut x, cut y, first, last]
  exact shifts_ne_of_window_ne (by simp [length]) (List.length_take_le _ _) windows

/-! ## Bits of bytes -/

/-- The bits of the first byte come first. -/
lemma bits_cons (b : UInt8) (bytes : List UInt8) : bits (b :: bytes) = bitsOfByte b ++ bits bytes :=
  rfl

/-- The bits of bytes come in the order of the bytes. -/
lemma bits_append (bytes bytes' : List UInt8) :
    bits (bytes ++ bytes') = bits bytes ++ bits bytes' :=
  List.flatMap_append

/-- A byte has eight bits. -/
lemma length_bitsOfByte (b : UInt8) : (bitsOfByte b).length = 8 := by
  simp [bitsOfByte]

/-- Bytes have eight bits each. -/
lemma length_bits (bytes : List UInt8) : (bits bytes).length = 8 * bytes.length := by
  induction bytes with
  | nil => rfl
  | cons b bytes ih =>
    rw [bits_cons, List.length_append, length_bitsOfByte, ih, List.length_cons]
    omega

/-- A byte is determined by its bits. -/
lemma bitsOfByte_injective : Function.Injective bitsOfByte := by
  intro b c same
  rw [← UInt8.toBitVec_inj]
  apply BitVec.eq_of_getLsbD_eq
  intro i lt
  exact List.map_inj_left.1 same i (List.mem_range.2 lt)

/-- Bytes are determined by their bits. -/
lemma bits_injective : Function.Injective bits := by
  intro bytes
  induction bytes with
  | nil =>
    intro bytes' same
    have length := congrArg List.length same
    rw [length_bits, length_bits, List.length_nil] at length
    exact (List.eq_nil_of_length_eq_zero (by omega)).symm
  | cons b bytes ih =>
    intro bytes' same
    cases bytes' with
    | nil =>
      have length := congrArg List.length same
      rw [length_bits, length_bits, List.length_cons, List.length_nil] at length
      omega
    | cons b' bytes' =>
      rw [bits_cons, bits_cons] at same
      obtain ⟨first, rest⟩ := List.append_inj same (by simp only [length_bitsOfByte])
      rw [bitsOfByte_injective first, ih rest]

/-- Bytes differ within a burst where four in a row do not stay as they were. -/
lemma differInBurst_of_bytes {before window window' after : List UInt8}
    (length : window.length = window'.length) (short : window.length ≤ 4) :
    DifferInBurst (bits (before ++ window ++ after)) (bits (before ++ window' ++ after)) := by
  simp only [bits_append]
  exact differInBurst_of_window (by rw [length_bits, length_bits, length])
    (by rw [length_bits]; omega)

/-- Checksums are the same exactly if the registers are left the same. -/
lemma ofBytes_eq_iff {bytes bytes' : List UInt8} :
    ofBytes bytes = ofBytes bytes' ↔
      shifts (BitVec.allOnes 32) (bits bytes) = shifts (BitVec.allOnes 32) (bits bytes') := by
  rw [ofBytes, ofBytes, ← UInt32.toBitVec_inj]
  exact BitVec.not_inj

/-- The bits of a word's bytes are the bits of the word. -/
lemma bits_bytesOfWord (n : UInt64) :
    bits (bytesOfWord n) = (List.range 64).map n.toBitVec.getLsbD := by
  have byte (i : Nat) : bitsOfByte (.ofNat (n.toNat >>> (8 * i)))
      = (List.range 8).map fun j => n.toBitVec.getLsbD (8 * i + j) := by
    apply List.map_congr_left
    intro j mem
    rw [UInt8.toBitVec_ofNat', BitVec.getLsbD_ofNat, decide_eq_true (List.mem_range.1 mem),
      Bool.true_and, Nat.testBit_shiftRight, ← UInt64.toNat_toBitVec, BitVec.testBit_toNat]
  rw [bits, bytesOfWord, List.flatMap_map]
  simp only [byte]
  rfl

end Crc

open Crc

variable {segment segment' : SegmentId} {content content' : String}

/-- A word has eight bytes. -/
lemma length_bytesOfWord (n : UInt64) : (bytesOfWord n).length = 8 := by
  simp [bytesOfWord]

/-- A word is determined by its bytes. -/
lemma bytesOfWord_injective : Function.Injective bytesOfWord := by
  intro n n' same
  have bits : bits (bytesOfWord n) = bits (bytesOfWord n') := by rw [same]
  rw [bits_bytesOfWord, bits_bytesOfWord] at bits
  rw [← UInt64.toBitVec_inj]
  apply BitVec.eq_of_getLsbD_eq
  intro i lt
  exact List.map_inj_left.1 bits i (List.mem_range.2 lt)

/-- The upper bytes of a small word are zero. -/
lemma drop_bytesOfWord {n : UInt64} (small : n.toNat < 2 ^ 32) :
    (bytesOfWord n).drop 4 = List.replicate 4 0 := by
  have upper {i : Nat} (high : 4 ≤ i) : n.toNat >>> (8 * i) = 0 := by
    rw [Nat.shiftRight_eq_div_pow]
    exact Nat.div_eq_of_lt (Nat.lt_of_lt_of_le small (Nat.pow_le_pow_right (by decide) (by omega)))
  show [UInt8.ofNat (n.toNat >>> (8 * 4)), .ofNat (n.toNat >>> (8 * 5)),
    .ofNat (n.toNat >>> (8 * 6)), .ofNat (n.toNat >>> (8 * 7))] = [0, 0, 0, 0]
  rw [upper (by decide), upper (by decide), upper (by decide), upper (by decide)]
  rfl

/-- A content has as many bytes as its encoding. -/
lemma length_encodeUtf8 (content : String) :
    (Text.encodeUtf8 content.toList).length = content.utf8ByteSize := by
  rw [← String.size_toByteArray, ← String.utf8Encode_toList, List.utf8Encode,
    List.size_toByteArray, Text.encodeUtf8]

/-- What is checked are the bits of the segment and of the content. -/
lemma length_bits_checkedBytes (segment : SegmentId) (content : String) :
    (bits (checkedBytes segment content)).length = 64 + 8 * content.utf8ByteSize := by
  rw [length_bits, checkedBytes, List.length_append, length_bytesOfWord, length_encodeUtf8]
  omega

/-- A segment and a content are determined by the bytes that their checksum covers. -/
lemma checkedBytes_inj :
    checkedBytes segment content = checkedBytes segment' content' ↔
      segment = segment' ∧ content = content' := by
  constructor
  · intro same
    obtain ⟨words, texts⟩ := List.append_inj same (by simp only [length_bytesOfWord])
    have decoded := congrArg Text.decodeUtf8 texts
    rw [Text.decodeUtf8_encodeUtf8, Text.decodeUtf8_encodeUtf8, Option.some.injEq] at decoded
    exact ⟨bytesOfWord_injective words, String.toList_inj.1 decoded⟩
  · rintro ⟨rfl, rfl⟩
    rfl

end ReplicaQuorum
