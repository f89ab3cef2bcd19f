import ReplicaQuorum.Text.Hex

/-!
# Escapes in JSON strings

How a text is spelled between the quotes of a JSON string, and which text a spelling denotes. Only
quotes, backslashes and control characters are escaped when writing. When reading, every escape of
the format is understood; a surrogate that has no partner denotes nothing.
-/

namespace ReplicaQuorum.Json

/-- The letter of the short escape of a character. -/
def shortEscape? : Char → Option Char
  | '"' => some '"'
  | '\\' => some '\\'
  | '\x08' => some 'b'
  | '\x0c' => some 'f'
  | '\n' => some 'n'
  | '\r' => some 'r'
  | '\t' => some 't'
  | _ => none

/-- The character that the letter of a short escape stands for. -/
def shortUnescape? : Char → Option Char
  | '"' => some '"'
  | '\\' => some '\\'
  | '/' => some '/'
  | 'b' => some '\x08'
  | 'f' => some '\x0c'
  | 'n' => some '\n'
  | 'r' => some '\r'
  | 't' => some '\t'
  | _ => none

/-- A character as it is spelled in a string. -/
def escapeChar (c : Char) : List Char :=
  match shortEscape? c with
  | some letter => ['\\', letter]
  | none => if c.toNat < 0x20 then '\\' :: 'u' :: Text.hexPadded 4 c.toNat else [c]

/-- A text as it is spelled in a string. -/
def escape (s : List Char) : List Char :=
  s.flatMap escapeChar

/-- The text as a string, in double quotes. -/
def quote (s : List Char) : List Char :=
  '"' :: escape s ++ ['"']

/-- The 16-bit unit that four hexadecimal digits denote. -/
def readUnit? (a b c d : Char) : Option Nat :=
  Text.readHex? [a, b, c, d]

/-- A unit that opens a surrogate pair. -/
def isHighSurrogate (unit : Nat) : Bool :=
  0xD800 ≤ unit && unit < 0xDC00

/-- A unit that closes a surrogate pair. -/
def isLowSurrogate (unit : Nat) : Bool :=
  0xDC00 ≤ unit && unit < 0xE000

/-- The character that a surrogate pair denotes. -/
def pairedChar (high low : Nat) : Char :=
  Char.ofNat (0x10000 + (high - 0xD800) * 0x400 + (low - 0xDC00))

/-- The text that a spelling denotes. -/
def unescape : List Char → Option (List Char)
  | [] => some []
  | '\\' :: 'u' :: a :: b :: c :: d :: rest =>
    match readUnit? a b c d with
    | none => none
    | some unit =>
      if isHighSurrogate unit then
        match rest with
        | '\\' :: 'u' :: e :: f :: g :: h :: rest =>
          match readUnit? e f g h with
          | none => none
          | some low =>
            if isLowSurrogate low then (unescape rest).map (pairedChar unit low :: ·) else none
        | _ => none
      else if isLowSurrogate unit then none
      else (unescape rest).map (Char.ofNat unit :: ·)
  | '\\' :: letter :: rest =>
    match shortUnescape? letter with
    | none => none
    | some c => (unescape rest).map (c :: ·)
  | c :: rest => (unescape rest).map (c :: ·)

end ReplicaQuorum.Json
