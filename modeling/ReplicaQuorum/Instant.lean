import ReplicaQuorum.Text.Blank
import ReplicaQuorum.Text.Numeral

/-!
# Instants

Points in time in UTC, read from and written as RFC 3339 texts. The reader is lenient about blanks,
the number of digits and the separators of the offset from UTC; the writers are exact. An instant
within a leap second keeps the second before it and counts its nanoseconds from 10^9 on.
-/

namespace ReplicaQuorum

/-- A day of the Gregorian calendar. -/
structure Date where
  year : Int
  month : Nat
  day : Nat
deriving DecidableEq, Repr

namespace Date

/-- The first year that a date can have. -/
def minYear : Int := -262143

/-- The last year that a date can have. -/
def maxYear : Int := 262142

/-- A year with a 29th of February. -/
def isLeapYear (year : Int) : Bool :=
  year % 4 = 0 && (year % 100 ≠ 0 || year % 400 = 0)

/-- The number of days in a month. -/
def daysInMonth (year : Int) (month : Nat) : Nat :=
  if month = 2 then (if isLeapYear year then 29 else 28)
  else if month = 4 || month = 6 || month = 9 || month = 11 then 30
  else 31

/-- The day exists in the calendar and lies within the range of years. -/
def isValid (d : Date) : Bool :=
  minYear ≤ d.year && d.year ≤ maxYear && 1 ≤ d.month && d.month ≤ 12
    && 1 ≤ d.day && d.day ≤ daysInMonth d.year d.month

/-- The day after. -/
def next (d : Date) : Date :=
  if d.day < daysInMonth d.year d.month then { d with day := d.day + 1 }
  else if d.month < 12 then ⟨d.year, d.month + 1, 1⟩
  else ⟨d.year + 1, 1, 1⟩

/-- The day before. -/
def previous (d : Date) : Date :=
  if 1 < d.day then { d with day := d.day - 1 }
  else if 1 < d.month then ⟨d.year, d.month - 1, daysInMonth d.year (d.month - 1)⟩
  else ⟨d.year - 1, 12, 31⟩

end Date

/-- A point in time in UTC. -/
structure Instant where
  date : Date
  /-- The seconds since midnight. -/
  second : Nat
  /-- The nanoseconds within the second, from 10^9 on in a leap second. -/
  nanos : Nat
deriving DecidableEq, Repr

namespace Instant

/-- The start of 1970. -/
def epoch : Instant := ⟨⟨1970, 1, 1⟩, 0, 0⟩

/-- The number of seconds in a day. -/
def secondsPerDay : Nat := 86400

/-- The number of nanoseconds in a second. -/
def nanosPerSecond : Nat := 1000000000

/-- The instant that clocks show at an offset in seconds from UTC, if it is in range. -/
def ofLocal? (date : Date) (second nanos : Nat) (offset : Int) : Option Instant :=
  let shifted := (second : Int) - offset
  let date :=
    if shifted < 0 then date.previous
    else if (secondsPerDay : Int) ≤ shifted then date.next
    else date
  if date.isValid then some ⟨date, (shifted % secondsPerDay).toNat, nanos⟩ else none

section Reader

/-- Up to `width` digits, at least one, and the text after them. -/
def scanDigits? (width : Nat) (s : List Char) : Option (List Char × List Char) :=
  match (s.take width).takeWhile Char.isDigit with
  | [] => none
  | digits => some (digits, s.drop digits.length)

/-- The value of digits. -/
def digitsValue (digits : List Char) : Nat :=
  digits.foldl (fun value c => 10 * value + Text.digitValue c) 0

/-- A number of up to `width` digits after any blanks. -/
def scanNumber? (width : Nat) (s : List Char) : Option (Nat × List Char) :=
  (scanDigits? width (Text.trimStart s)).map fun r => (digitsValue r.1, r.2)

/-- A year: up to four digits, or a sign and any number of digits. -/
def scanYear? (s : List Char) : Option (Int × List Char) :=
  match Text.trimStart s with
  | '-' :: rest => (scanDigits? rest.length rest).map fun r => (-(digitsValue r.1 : Int), r.2)
  | '+' :: rest => (scanDigits? rest.length rest).map fun r => ((digitsValue r.1 : Int), r.2)
  | rest => (scanDigits? 4 rest).map fun r => ((digitsValue r.1 : Int), r.2)

/-- The text after a mark, which may have blanks before it. -/
def afterMark? (mark : Char) (s : List Char) : Option (List Char) :=
  match Text.trimStart s with
  | c :: rest => if c = mark then some rest else none
  | [] => none

/-- The nanoseconds of a fraction, of whose digits nine count, and the text after it. A text without
a fraction has none. -/
def scanFraction? : List Char → Option (Nat × List Char)
  | '.' :: rest =>
    (scanDigits? 9 rest).map fun r =>
      (digitsValue (r.1 ++ List.replicate (9 - r.1.length) '0'), r.2.dropWhile Char.isDigit)
  | s => some (0, s)

/-- Two digits. -/
def scanPair? : List Char → Option (Nat × List Char)
  | a :: b :: rest =>
    if a.isDigit && b.isDigit then some (digitsValue [a, b], rest) else none
  | _ => none

/-- The sign of an offset. -/
def scanSign? : List Char → Option (Int × List Char)
  | '+' :: rest => some (1, rest)
  | '-' :: rest => some (-1, rest)
  | '\u2212' :: rest => some (-1, rest)
  | _ => none

/-- The offset from UTC in seconds: its name in any case, the letter Z, or a sign with hours and
minutes that colons and blanks may set apart. -/
def scanOffset? (s : List Char) : Option (Int × List Char) :=
  if (s.take 3).map Char.toUpper = ['U', 'T', 'C'] then some (0, s.drop 3)
  else
    match s with
    | 'Z' :: rest => some (0, rest)
    | 'z' :: rest => some (0, rest)
    | s => do
      let (sign, s) ← scanSign? s
      let (hours, s) ← scanPair? s
      let (minutes, s) ← scanPair? (s.dropWhile fun c => c = ':' || Text.isBlank c)
      if minutes < 60 ∧ hours * 3600 + minutes * 60 < secondsPerDay then
        some (sign * (hours * 3600 + minutes * 60 : Nat), s)
      else none

/-- The day and the text after it. -/
def scanDate? (s : List Char) : Option (Date × List Char) := do
  let (year, s) ← scanYear? s
  let s ← afterMark? '-' s
  let (month, s) ← scanNumber? 2 s
  let s ← afterMark? '-' s
  let (day, s) ← scanNumber? 2 s
  let date : Date := ⟨year, month, day⟩
  if date.isValid then some (date, s) else none

/-- The seconds since midnight, the nanoseconds and the text after them. -/
def scanTime? (s : List Char) : Option (Nat × Nat × List Char) := do
  let (hour, s) ← scanNumber? 2 s
  let s ← afterMark? ':' s
  let (minute, s) ← scanNumber? 2 s
  let s ← afterMark? ':' s
  let (second, s) ← scanNumber? 2 s
  let (nanos, s) ← scanFraction? s
  if hour < 24 ∧ minute < 60 ∧ second ≤ 60 then
    if second = 60 then some (hour * 3600 + minute * 60 + 59, nanos + nanosPerSecond, s)
    else some (hour * 3600 + minute * 60 + second, nanos, s)
  else none

/-- Reads an instant. -/
def read? (s : List Char) : Option Instant := do
  let (date, s) ← scanDate? s
  let s ← match s with
    | 'T' :: rest => some rest
    | 't' :: rest => some rest
    | ' ' :: rest => some rest
    | _ => none
  let (second, nanos, s) ← scanTime? s
  let (offset, s) ← scanOffset? (Text.trimStart s)
  if Text.isAllBlank s then ofLocal? date second nanos offset else none

end Reader

section Writer

/-- A number with zeros in front up to `width` digits. -/
def padded (width n : Nat) : List Char :=
  let digits := Text.decimal n
  List.replicate (width - digits.length) '0' ++ digits

/-- A year: four digits, or a sign and at least four digits beyond them. -/
def yearText (year : Int) : List Char :=
  if 0 ≤ year ∧ year ≤ 9999 then padded 4 year.toNat
  else (if year < 0 then '-' else '+') :: padded 4 year.natAbs

/-- A fraction in as few groups of three digits as it takes. -/
def fractionText (nanos : Nat) : List Char :=
  if nanos = 0 then []
  else if nanos % 1000000 = 0 then '.' :: padded 3 (nanos / 1000000)
  else if nanos % 1000 = 0 then '.' :: padded 6 (nanos / 1000)
  else '.' :: padded 9 nanos

/-- The instant up to its offset. -/
def timeText (t : Instant) : List Char :=
  yearText t.date.year ++ '-' :: padded 2 t.date.month ++ '-' :: padded 2 t.date.day
    ++ 'T' :: padded 2 (t.second / 3600) ++ ':' :: padded 2 (t.second / 60 % 60)
    ++ ':' :: padded 2 (t.second % 60 + t.nanos / nanosPerSecond)
    ++ fractionText (t.nanos % nanosPerSecond)

/-- The instant with a numeric offset. -/
def text (t : Instant) : String :=
  String.ofList (t.timeText ++ ['+', '0', '0', ':', '0', '0'])

/-- The instant as it stands in records. -/
def recordText (t : Instant) : String :=
  String.ofList (t.timeText ++ ['Z'])

end Writer

end Instant

end ReplicaQuorum
