import ReplicaQuorum.Json

/-!
# Reading JSON

A reader for whole texts. It decides only the form: strings keep their spelling, whose escapes have
been checked for their shape, and numbers keep theirs. Each scanner takes what it reads off the
front of the text and returns the rest.
-/

namespace ReplicaQuorum.Json

/-- The characters that may stand between the parts of a value. -/
def isSpace (c : Char) : Bool :=
  c = ' ' || c = '\t' || c = '\n' || c = '\r'

/-- The text without its leading spaces. -/
def skipSpace (s : List Char) : List Char :=
  s.dropWhile isSpace

/-- A scanned part and the text after it. -/
abbrev Scan (α : Type) := Option (α × List Char)

/-- The spelling of a string up to its closing quote. -/
def scanString : List Char → Scan (List Char)
  | [] => none
  | '"' :: rest => some ([], rest)
  | '\\' :: 'u' :: a :: b :: c :: d :: rest =>
    match readUnit? a b c d with
    | none => none
    | some _ => (scanString rest).map fun r => ('\\' :: 'u' :: a :: b :: c :: d :: r.1, r.2)
  | '\\' :: letter :: rest =>
    match shortUnescape? letter with
    | none => none
    | some _ => (scanString rest).map fun r => ('\\' :: letter :: r.1, r.2)
  | c :: rest =>
    if c.toNat < 0x20 then none else (scanString rest).map fun r => (c :: r.1, r.2)

/-- One or more digits. -/
def scanDigits (s : List Char) : Scan (List Char) :=
  match s.takeWhile Char.isDigit with
  | [] => none
  | digits => some (digits, s.dropWhile Char.isDigit)

/-- The digits before the fraction: a zero, or digits that do not start with one. -/
def scanWhole : List Char → Scan (List Char)
  | '0' :: rest => some (['0'], rest)
  | s => scanDigits s

/-- The fraction of a number, if it has one. -/
def scanFraction : List Char → Scan (List Char)
  | '.' :: rest => (scanDigits rest).map fun r => ('.' :: r.1, r.2)
  | s => some ([], s)

/-- The exponent's sign and digits. -/
def scanSignedDigits : List Char → Scan (List Char)
  | '+' :: rest => (scanDigits rest).map fun r => ('+' :: r.1, r.2)
  | '-' :: rest => (scanDigits rest).map fun r => ('-' :: r.1, r.2)
  | s => scanDigits s

/-- The exponent of a number, if it has one. -/
def scanExponent : List Char → Scan (List Char)
  | 'e' :: rest => (scanSignedDigits rest).map fun r => ('e' :: r.1, r.2)
  | 'E' :: rest => (scanSignedDigits rest).map fun r => ('E' :: r.1, r.2)
  | s => some ([], s)

/-- A number without its sign. -/
def scanMagnitude (s : List Char) : Scan (List Char) :=
  (scanWhole s).bind fun whole =>
    (scanFraction whole.2).bind fun fraction =>
      (scanExponent fraction.2).map fun exponent =>
        (whole.1 ++ fraction.1 ++ exponent.1, exponent.2)

/-- A number. -/
def scanNumber : List Char → Scan (List Char)
  | '-' :: rest => (scanMagnitude rest).map fun r => ('-' :: r.1, r.2)
  | s => scanMagnitude s

mutual

/-- A value after any spaces. -/
def scanValue : Nat → List Char → Scan Json
  | 0, _ => none
  | fuel + 1, s =>
    match skipSpace s with
    | 'n' :: 'u' :: 'l' :: 'l' :: rest => some (null, rest)
    | 't' :: 'r' :: 'u' :: 'e' :: rest => some (bool true, rest)
    | 'f' :: 'a' :: 'l' :: 's' :: 'e' :: rest => some (bool false, rest)
    | '"' :: rest => (scanString rest).map fun r => (string r.1, r.2)
    | '[' :: rest =>
      match skipSpace rest with
      | ']' :: rest => some (array [], rest)
      | rest => (scanElements fuel rest).map fun r => (array r.1, r.2)
    | '\x7b' :: rest =>
      match skipSpace rest with
      | '\x7d' :: rest => some (object [], rest)
      | rest => (scanMembers fuel rest).map fun r => (object r.1, r.2)
    | s => (scanNumber s).map fun r => (number r.1, r.2)

/-- The values of an array up to its closing bracket. -/
def scanElements : Nat → List Char → Scan (List Json)
  | 0, _ => none
  | fuel + 1, s =>
    match scanValue fuel s with
    | none => none
    | some (element, rest) =>
      match skipSpace rest with
      | ']' :: rest => some ([element], rest)
      | ',' :: rest => (scanElements fuel rest).map fun r => (element :: r.1, r.2)
      | _ => none

/-- The members of an object up to its closing brace. -/
def scanMembers : Nat → List Char → Scan (List (List Char × Json))
  | 0, _ => none
  | fuel + 1, s =>
    match skipSpace s with
    | '"' :: rest =>
      match scanString rest with
      | none => none
      | some (name, rest) =>
        match skipSpace rest with
        | ':' :: rest =>
          match scanValue fuel rest with
          | none => none
          | some (value, rest) =>
            match skipSpace rest with
            | '\x7d' :: rest => some ([(name, value)], rest)
            | ',' :: rest =>
              (scanMembers fuel rest).map fun r => ((name, value) :: r.1, r.2)
            | _ => none
        | _ => none
    | _ => none

end

/-- The value that a whole text denotes. Every scanner takes at least one character for two steps,
so twice the length of the text bounds the steps. -/
def read? (s : List Char) : Option Json :=
  match scanValue (2 * s.length + 1) s with
  | some (value, rest) => if (skipSpace rest).isEmpty then some value else none
  | none => none

end ReplicaQuorum.Json
