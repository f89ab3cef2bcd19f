/-!
# Lines of bytes

A file is read as lines of bytes. A line feed ends a line, a carriage return just before it belongs
to the line end, and bytes after the last line feed are a line of their own. Each line is decoded by
itself, so bytes that are not UTF-8 spoil their own line only.
-/

namespace ReplicaQuorum.Text

/-- The line feed that ends a line. -/
def lineFeed : UInt8 := 10

/-- The carriage return that may stand before a line feed. -/
def carriageReturn : UInt8 := 13

/-- A line that a line feed ends, without a carriage return at its end; `line` is reversed. -/
def closedLine : List UInt8 → List UInt8
  | b :: line => if b = carriageReturn then line.reverse else (b :: line).reverse
  | [] => []

/-- The lines of the bytes that follow the reversed beginning `line` of a line. -/
def linesFrom (line : List UInt8) : List UInt8 → List (List UInt8)
  | [] => if line.isEmpty then [] else [line.reverse]
  | b :: bytes =>
    if b = lineFeed then closedLine line :: linesFrom [] bytes
    else linesFrom (b :: line) bytes

/-- The lines of a file. -/
def lines (bytes : List UInt8) : List (List UInt8) :=
  linesFrom [] bytes

/-- The bytes of a text. -/
def encodeUtf8 (s : List Char) : List UInt8 :=
  s.flatMap String.utf8EncodeChar

/-- The text that the bytes spell, if they are UTF-8. -/
def decodeUtf8 (bytes : List UInt8) : Option (List Char) :=
  (ByteArray.mk bytes.toArray).utf8Decode?.map Array.toList

/-- What follows a line feed is read apart from what stands before it. -/
theorem linesFrom_append_lineFeed (line before after : List UInt8) :
    linesFrom line (before ++ lineFeed :: after)
      = linesFrom line (before ++ [lineFeed]) ++ linesFrom [] after := by
  induction before generalizing line with
  | nil => simp [linesFrom]
  | cons b bytes ih =>
    simp only [List.cons_append, linesFrom]
    split
    · rw [ih, List.cons_append]
    · exact ih _

/-- Decoding gives back the text that was encoded. -/
theorem decodeUtf8_encodeUtf8 (s : List Char) : decodeUtf8 (encodeUtf8 s) = some s := by
  have bytes : ByteArray.mk (encodeUtf8 s).toArray = s.utf8Encode := by
    apply ByteArray.ext
    rw [List.utf8Encode, encodeUtf8, ← Array.toList_inj, List.toList_data_toByteArray]
  rw [decodeUtf8, bytes, List.utf8Decode?_utf8Encode]
  simp

end ReplicaQuorum.Text
