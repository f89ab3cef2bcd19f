/-!
# Decimal numerals

Reading and writing natural numbers below a limit. A numeral is an optional plus sign and one or
more decimal digits, leading zeros allowed; it is read from left to right, and the first problem
met is the one that is reported.
-/

namespace ReplicaQuorum.Text

/-- Why a text is no numeral below the limit. -/
inductive NumeralError where
  | empty
  | invalidDigit
  | tooLarge
deriving DecidableEq, Repr

/-- What is reported of a text that is no numeral. -/
def NumeralError.message : NumeralError → String
  | .empty => "cannot parse integer from empty string"
  | .invalidDigit => "invalid digit found in string"
  | .tooLarge => "number too large to fit in target type"

/-- The digits of a number, most significant first. -/
def decimal (n : Nat) : List Char :=
  Nat.toDigits 10 n

/-- The value of a decimal digit. -/
def digitValue (c : Char) : Nat :=
  c.toNat - '0'.toNat

/-- Reads digits onto the number `value` read so far. -/
def readDigits (limit : Nat) (value : Nat) : List Char → Except NumeralError Nat
  | [] => .ok value
  | c :: cs =>
    if c.isDigit then
      let next := 10 * value + digitValue c
      if next < limit then readDigits limit next cs else .error .tooLarge
    else .error .invalidDigit

/-- Reads a numeral whose value is below `limit`. -/
def readNumeral (limit : Nat) : List Char → Except NumeralError Nat
  | [] => .error .empty
  | ['+'] => .error .invalidDigit
  | '+' :: cs => readDigits limit 0 cs
  | cs => readDigits limit 0 cs

/-- Reads a 64-bit word. -/
def readUInt64 (s : List Char) : Except NumeralError UInt64 :=
  (readNumeral UInt64.size s).map UInt64.ofNat

/-- Reads a 16-bit word. -/
def readUInt16 (s : List Char) : Except NumeralError UInt16 :=
  (readNumeral UInt16.size s).map UInt16.ofNat

end ReplicaQuorum.Text
