import Mathlib.Data.List.DropRight
import Mathlib.Tactic.Basic
import ReplicaQuorum.Text.Lines
import ReplicaQuorum.Text.Pieces

/-!
# Lines of a file

A file is made of lines that are closed by a line feed and of one that is still open, which may be
empty. What is added to a file goes on with its open line. The lines of a file that is a text are
what stands between the line feeds of the text.
-/

namespace ReplicaQuorum.Text

variable {s t : List Char} {bytes line : List UInt8}

/-! ## Bytes of a text -/

/-- Texts one after the other are encoded one after the other. -/
lemma encodeUtf8_append (s t : List Char) : encodeUtf8 (s ++ t) = encodeUtf8 s ++ encodeUtf8 t :=
  List.flatMap_append

/-- Bytes are a text exactly if they are its encoding. -/
lemma decodeUtf8_eq_some_iff : decodeUtf8 bytes = some s ↔ bytes = encodeUtf8 s := by
  constructor
  · intro decoded
    unfold decodeUtf8 at decoded
    obtain ⟨chars, found, rfl⟩ := Option.map_eq_some_iff.1 decoded
    have valid : (ByteArray.mk bytes.toArray).utf8Decode?.isSome := by
      rw [found]
      rfl
    have back : ((ByteArray.mk bytes.toArray).utf8Decode?.get valid).toList.utf8Encode =
        ByteArray.mk bytes.toArray := ByteArray.utf8Encode_get_utf8Decode?
    have same : (ByteArray.mk bytes.toArray).utf8Decode?.get valid = chars :=
      Option.get_of_eq_some valid found
    rw [same] at back
    have data := congrArg (fun b => b.data.toList) back
    simpa [encodeUtf8, List.utf8Encode] using data.symm
  · rintro rfl
    exact decodeUtf8_encodeUtf8 s

/-- A text with more behind it is decoded in the same way. -/
lemma decodeUtf8_append (decoded : decodeUtf8 bytes = some s) (t : List Char) :
    decodeUtf8 (bytes ++ encodeUtf8 t) = some (s ++ t) := by
  rw [decodeUtf8_eq_some_iff] at decoded ⊢
  rw [decoded, encodeUtf8_append]

/-- A byte below 128 spells nothing but its own character. -/
lemma toNat_of_mem_utf8EncodeChar {c : Char} {b : UInt8} (mem : b ∈ String.utf8EncodeChar c)
    (ascii : b.toNat < 128) : c.toNat = b.toNat := by
  -- every byte of a longer encoding is at least 128
  have other : ∀ n, 128 ≤ n → n < 256 → b ≠ UInt8.ofNat n := by
    intro n large small eq
    have value := congrArg UInt8.toNat eq
    rw [UInt8.toNat_ofNat_of_lt' small] at value
    omega
  rw [String.utf8EncodeChar.eq_1] at mem
  split at mem
  · next short =>
    have value := congrArg UInt8.toNat (List.mem_singleton.1 mem)
    rw [UInt8.toNat_ofNat_of_lt' (Nat.lt_of_le_of_lt short (by decide))] at value
    exact value.symm
  · exfalso
    split at mem
    · simp only [List.mem_cons, List.not_mem_nil, or_false] at mem
      rcases mem with eq | eq <;> exact other _ (by omega) (by omega) eq
    · split at mem
      · simp only [List.mem_cons, List.not_mem_nil, or_false] at mem
        rcases mem with eq | eq | eq <;> exact other _ (by omega) (by omega) eq
      · simp only [List.mem_cons, List.not_mem_nil, or_false] at mem
        rcases mem with eq | eq | eq | eq <;> exact other _ (by omega) (by omega) eq

/-- Only a line feed is spelled with the byte of a line feed. -/
lemma lineFeed_notMem_encodeUtf8 (notMem : '\n' ∉ s) : lineFeed ∉ encodeUtf8 s := by
  intro mem
  obtain ⟨c, memChar, mem⟩ := List.mem_flatMap.1 mem
  have same : c = '\n' :=
    Char.ext (UInt32.toNat_inj.1 (toNat_of_mem_utf8EncodeChar mem (by decide)))
  exact notMem (same ▸ memChar)

/-! ## Closed lines and the open one -/

/-- The bytes after the last line feed. -/
def openLine (bytes : List UInt8) : List UInt8 :=
  bytes.rtakeWhile (· ≠ lineFeed)

/-- The bytes up to the last line feed. -/
def closedLines (bytes : List UInt8) : List UInt8 :=
  bytes.rdropWhile (· ≠ lineFeed)

/-- The closed lines and the open one are all there is. -/
lemma closedLines_append_openLine (bytes : List UInt8) :
    closedLines bytes ++ openLine bytes = bytes :=
  List.rdropWhile_append_rtakeWhile

/-- The open line has no line feed. -/
lemma lineFeed_notMem_openLine (bytes : List UInt8) : lineFeed ∉ openLine bytes := by
  intro mem
  have other := List.mem_rtakeWhile_imp mem
  simp at other

/-- Without a line feed the open line is all there is. -/
lemma openLine_eq_self (notMem : lineFeed ∉ bytes) : openLine bytes = bytes := by
  refine List.rtakeWhile_eq_self_iff.2 fun b mem => ?_
  rw [decide_eq_true_eq]
  rintro rfl
  exact notMem mem

/-- Without a line feed no line is closed. -/
lemma closedLines_eq_nil (notMem : lineFeed ∉ bytes) : closedLines bytes = [] := by
  have whole := closedLines_append_openLine bytes
  rw [openLine_eq_self notMem] at whole
  exact List.append_cancel_right (whole.trans (List.nil_append bytes).symm)

/-- Nothing stands behind a line feed at the end. -/
lemma openLine_append_lineFeed (bytes : List UInt8) : openLine (bytes ++ [lineFeed]) = [] :=
  List.rtakeWhile_concat_neg _ _ _ (by simp)

/-- The closed lines are none or end in a line feed. -/
lemma closedLines_cases (bytes : List UInt8) :
    closedLines bytes = [] ∨ ∃ before, closedLines bytes = before ++ [lineFeed] := by
  rcases List.eq_nil_or_concat (closedLines bytes) with empty | ⟨before, b, eq⟩
  · exact .inl empty
  · right
    have ne : closedLines bytes ≠ [] := by simp [eq]
    have last := List.rdropWhile_last_not _ bytes ne
    change ¬decide ((closedLines bytes).getLast ne ≠ lineFeed) = true at last
    simp only [eq] at last
    refine ⟨before, ?_⟩
    simpa [eq] using last

/-- What stands after the closed lines is read apart from them. -/
lemma lines_closedLines_append (bytes after : List UInt8) :
    lines (closedLines bytes ++ after) = lines (closedLines bytes) ++ linesFrom [] after := by
  rcases closedLines_cases bytes with empty | ⟨before, eq⟩
  · rw [empty]
    rfl
  · rw [eq, List.append_assoc]
    exact linesFrom_append_lineFeed [] before after

/-- Bytes without a line feed only make a line longer. -/
lemma linesFrom_append_of_notMem (begun : List UInt8) (notMem : lineFeed ∉ line)
    (after : List UInt8) :
    linesFrom begun (line ++ after) = linesFrom (line.reverse ++ begun) after := by
  induction line generalizing begun with
  | nil => rfl
  | cons b line ih =>
    simp only [List.mem_cons, not_or] at notMem
    rw [List.cons_append, linesFrom, if_neg (Ne.symm notMem.1), ih _ notMem.2]
    simp

/-- The open line is the last one, if there is something on it. -/
lemma lines_eq (bytes : List UInt8) :
    lines bytes =
      lines (closedLines bytes) ++ if openLine bytes = [] then [] else [openLine bytes] := by
  have last : linesFrom [] (openLine bytes) =
      if openLine bytes = [] then [] else [openLine bytes] := by
    have read := linesFrom_append_of_notMem [] (lineFeed_notMem_openLine bytes) []
    rw [List.append_nil, List.append_nil] at read
    rw [read, linesFrom]
    simp
  rw [← last, ← lines_closedLines_append, closedLines_append_openLine]

/-- A line that is added goes on with the open line and closes it. -/
lemma lines_append_line (bytes : List UInt8) (notMem : lineFeed ∉ line)
    (last : ∀ b ∈ line.getLast?, b ≠ carriageReturn) (ne : line ≠ []) :
    lines (bytes ++ (line ++ [lineFeed])) =
      lines (closedLines bytes) ++ [openLine bytes ++ line] := by
  have whole : lineFeed ∉ openLine bytes ++ line := by
    simp [lineFeed_notMem_openLine, notMem]
  have closed :
      linesFrom [] ((openLine bytes ++ line) ++ [lineFeed]) = [openLine bytes ++ line] := by
    rw [linesFrom_append_of_notMem [] whole, linesFrom, if_pos rfl, List.append_nil]
    obtain ⟨before, b, rfl⟩ := (List.eq_nil_or_concat line).resolve_left ne
    have other : b ≠ carriageReturn := last b (by simp)
    simp [closedLine, linesFrom, other]
  calc lines (bytes ++ (line ++ [lineFeed]))
      = lines (closedLines bytes ++ ((openLine bytes ++ line) ++ [lineFeed])) := by
        rw [← List.append_assoc, ← List.append_assoc, ← List.append_assoc,
          closedLines_append_openLine]
    _ = lines (closedLines bytes) ++ [openLine bytes ++ line] := by
        rw [lines_closedLines_append, closed]

/-! ## Lines of a text -/

/-- A line without the carriage return that may stand at its end. -/
def withoutReturn (line : List Char) : List Char :=
  if line.getLast? = some '\r' then line.dropLast else line

/-- The lines that stand on the pieces between line feeds: the last piece is a line only if there is
something on it. -/
def linesOfPieces : List (List Char) → List (List Char)
  | [] => []
  | [last] => if last = [] then [] else [last]
  | piece :: pieces => withoutReturn piece :: linesOfPieces pieces

/-- The lines of a text. -/
def linesOf (s : List Char) : List (List Char) :=
  linesOfPieces (split '\n' s)

/-- A text without a line feed is one line, unless it is empty. -/
lemma linesOf_of_notMem (notMem : '\n' ∉ s) : linesOf s = if s = [] then [] else [s] := by
  rw [linesOf, split_eq_singleton notMem, linesOfPieces]

/-- The first line ends at the first line feed. -/
lemma linesOf_append_lineFeed (notMem : '\n' ∉ s) (rest : List Char) :
    linesOf (s ++ '\n' :: rest) = withoutReturn s :: linesOf rest := by
  rw [linesOf, linesOf, split_append_cons notMem]
  obtain ⟨piece, pieces, eq⟩ := List.exists_cons_of_ne_nil (split_ne_nil '\n' rest)
  rw [eq, linesOfPieces]
  exact List.cons_ne_nil piece pieces

/-- The byte of a carriage return at the end of a line is a carriage return of its text. -/
lemma closedLine_encodeUtf8 (s : List Char) :
    closedLine (encodeUtf8 s).reverse = encodeUtf8 (withoutReturn s) := by
  rcases List.eq_nil_or_concat s with rfl | ⟨before, c, rfl⟩
  · rfl
  · have bytes : encodeUtf8 (before.concat c) = encodeUtf8 before ++ String.utf8EncodeChar c := by
      rw [List.concat_eq_append, encodeUtf8_append]
      simp [encodeUtf8]
    by_cases eq : c = '\r'
    · subst eq
      have one : String.utf8EncodeChar '\r' = [carriageReturn] := by rfl
      rw [bytes, one, List.reverse_append]
      simp [closedLine, withoutReturn]
    · have kept : withoutReturn (before.concat c) = before.concat c := by
        simp [withoutReturn, eq]
      obtain ⟨front, b, last⟩ := (List.eq_nil_or_concat (String.utf8EncodeChar c)).resolve_left
        (by simp)
      have other : b ≠ carriageReturn := by
        rintro rfl
        have mem : carriageReturn ∈ String.utf8EncodeChar c := by simp [last]
        have same : c = '\r' :=
          Char.ext (UInt32.toNat_inj.1 (toNat_of_mem_utf8EncodeChar mem (by decide)))
        exact eq same
      rw [kept, bytes, last, List.concat_eq_append, ← List.append_assoc, List.reverse_append]
      simp [closedLine, other]

/-- The lines of the bytes of a text are the lines of the text. -/
lemma linesFrom_encodeUtf8 (notMem : '\n' ∉ s) (t : List Char) :
    linesFrom (encodeUtf8 s).reverse (encodeUtf8 t) = (linesOf (s ++ t)).map encodeUtf8 := by
  induction t generalizing s with
  | nil =>
    rw [List.append_nil, linesOf_of_notMem notMem]
    show linesFrom _ [] = _
    rw [linesFrom]
    cases s with
    | nil => rfl
    | cons c s =>
      have filled : encodeUtf8 (c :: s) ≠ [] := by simp [encodeUtf8]
      simp [filled]
  | cons c t ih =>
    by_cases eq : c = '\n'
    · subst eq
      have line : encodeUtf8 ('\n' :: t) = lineFeed :: encodeUtf8 t := by rfl
      rw [line, linesFrom, if_pos rfl, closedLine_encodeUtf8, linesOf_append_lineFeed notMem,
        List.map_cons]
      exact congrArg _ (ih List.not_mem_nil)
    · have longer : '\n' ∉ s ++ [c] := by simp [notMem, Ne.symm eq]
      have bytes : encodeUtf8 (c :: t) = encodeUtf8 [c] ++ encodeUtf8 t :=
        encodeUtf8_append [c] t
      have single : '\n' ∉ [c] := fun mem => eq (List.mem_singleton.1 mem).symm
      rw [bytes, linesFrom_append_of_notMem _ (lineFeed_notMem_encodeUtf8 single),
        ← List.reverse_append, ← encodeUtf8_append, ih longer, List.append_assoc,
        List.singleton_append]

/-- The lines of a file that is a text are the lines of the text. -/
lemma lines_encodeUtf8 (s : List Char) : lines (encodeUtf8 s) = (linesOf s).map encodeUtf8 :=
  linesFrom_encodeUtf8 List.not_mem_nil s

end ReplicaQuorum.Text
