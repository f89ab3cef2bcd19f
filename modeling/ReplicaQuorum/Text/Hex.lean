/-!
# Hexadecimal digits

Lower case hexadecimal numerals, as they stand in checksums, request identifiers and escapes.
-/

namespace ReplicaQuorum.Text

/-- The digits of a number in base 16, most significant first. -/
def hex (n : Nat) : List Char :=
  Nat.toDigits 16 n

/-- The digits of a number in base 16, with zeros in front up to `width` digits. -/
def hexPadded (width n : Nat) : List Char :=
  let digits := hex n
  List.replicate (width - digits.length) '0' ++ digits

/-- The value of a hexadecimal digit of either case. -/
def hexValue? (c : Char) : Option Nat :=
  if c.isDigit then some (c.toNat - '0'.toNat)
  else if 'a' ≤ c ∧ c ≤ 'f' then some (c.toNat - 'a'.toNat + 10)
  else if 'A' ≤ c ∧ c ≤ 'F' then some (c.toNat - 'A'.toNat + 10)
  else none

/-- The number that hexadecimal digits denote. -/
def readHex? (digits : List Char) : Option Nat :=
  digits.foldlM (fun value c => (hexValue? c).map (16 * value + ·)) 0

end ReplicaQuorum.Text
