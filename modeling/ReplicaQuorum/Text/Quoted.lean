import ReplicaQuorum.Text.Hex
import ReplicaQuorum.Text.Printable

/-!
# Quoted texts

How messages quote a text they complain about: in double quotes, with a backslash before a quote or
a backslash, short escapes for the null, tab, line feed and carriage return, and the code point of
every other character that is not printable.
-/

namespace ReplicaQuorum.Text

/-- One character as it stands inside a quoted text. -/
def quotedChar (c : Char) : List Char :=
  match c with
  | '\x00' => ['\\', '0']
  | '\t' => ['\\', 't']
  | '\r' => ['\\', 'r']
  | '\n' => ['\\', 'n']
  | '"' => ['\\', '"']
  | '\\' => ['\\', '\\']
  | c => if isPrintable c then [c] else ['\\', 'u', '\x7b'] ++ hex c.toNat ++ ['\x7d']

/-- The text in double quotes. -/
def quoted (s : List Char) : List Char :=
  '"' :: s.flatMap quotedChar ++ ['"']

end ReplicaQuorum.Text
