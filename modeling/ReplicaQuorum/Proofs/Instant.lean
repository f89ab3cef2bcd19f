import Mathlib.Data.Nat.Digits.Defs
import ReplicaQuorum.Instant
import ReplicaQuorum.Proofs.Text.Numeral

/-!
# Reading back instants

An instant that a clock can show reads back from its text in records, to the nanosecond and through
leap seconds. Every number in the text is padded to a known width or stops at a mark, so the
scanners take exactly its digits.
-/

namespace ReplicaQuorum.Instant

open Text

/-- An instant that a clock can show: only the last second of a minute can be followed by a leap
second. -/
structure IsValid (t : Instant) : Prop where
  date : t.date.isValid
  second_lt : t.second < secondsPerDay
  nanos_lt : t.nanos < nanosPerSecond ∨ t.second % 60 = 59 ∧ t.nanos < 2 * nanosPerSecond

/-- The epoch has a date that can be written. -/
lemma epoch_isValid : epoch.IsValid :=
  ⟨by decide, by decide, .inl (by decide)⟩

variable {c : Char} {digits rest : List Char} {n width : Nat}

/-! ## Padded numbers -/

/-- A padded number consists of digits. -/
lemma isDigit_of_mem_padded (mem : c ∈ padded width n) : c.isDigit := by
  rcases List.mem_append.1 mem with zero | mem
  · rw [List.eq_of_mem_replicate zero]
    rfl
  · exact isDigit_of_mem_decimal mem

/-- A padded number has a digit. -/
lemma padded_ne_nil : padded width n ≠ [] :=
  List.append_ne_nil_of_right_ne_nil _ (decimal_ne_nil n)

/-- A number that fits the width is padded to it. -/
lemma length_padded (pos : 0 < width) (fits : n < 10 ^ width) :
    (padded width n).length = width := by
  have short : (decimal n).length ≤ width := Nat.toDigits_length 10 n width pos fits
  rw [padded, List.length_append, List.length_replicate]
  omega

/-- Zeros at the end shift the value by as many places. -/
lemma digitsValue_append_replicate (digits : List Char) (k : Nat) :
    digitsValue (digits ++ List.replicate k '0') = 10 ^ k * digitsValue digits := by
  rw [digitsValue, List.foldl_append]
  exact Nat.ofDigitChars_eq_foldl.symm.trans Nat.ofDigitChars_replicate_zero

/-- A padded number has the value of the number. -/
lemma digitsValue_padded (width n : Nat) : digitsValue (padded width n) = n := by
  have zeros : digitsValue (List.replicate (width - (decimal n).length) '0') = 0 :=
    digitsValue_append_replicate [] _
  rw [padded, digitsValue, List.foldl_append]
  change List.foldl _ (digitsValue _) _ = _
  rw [zeros]
  exact Nat.ofDigitChars_eq_foldl.symm.trans Nat.ofDigitChars_ten_toDigits

/-! ## Scanning numbers -/

/-- Digits are scanned up to the width, or up to a character that is none. -/
lemma scanDigits?_append (ne : digits ≠ []) (all : ∀ c ∈ digits, c.isDigit)
    (fits : digits.length ≤ width)
    (stop : digits.length = width ∨ ∀ c ∈ rest.head?, ¬c.isDigit) :
    scanDigits? width (digits ++ rest) = some (digits, rest) := by
  have stopped : (rest.take (width - digits.length)).takeWhile Char.isDigit = [] := by
    rcases stop with rfl | stop
    · simp
    · cases rest with
      | nil => simp
      | cons c rest =>
        cases width - digits.length with
        | zero => rfl
        | succ k => exact List.takeWhile_cons_of_neg (stop c rfl)
  have taken : ((digits ++ rest).take width).takeWhile Char.isDigit = digits := by
    rw [List.take_append, List.take_of_length_le fits, List.takeWhile_append_of_pos all, stopped,
      List.append_nil]
  unfold scanDigits?
  rw [taken]
  cases digits with
  | nil => exact absurd rfl ne
  | cons c digits => simp

/-- There is nothing to trim before a character that is no blank. -/
lemma trimStart_cons (blank : isBlank c = false) : trimStart (c :: rest) = c :: rest :=
  List.dropWhile_cons_of_neg (by simp [blank])

/-- There is nothing to trim before a padded number. -/
lemma trimStart_padded : trimStart (padded width n ++ rest) = padded width n ++ rest := by
  cases eq : padded width n with
  | nil => exact absurd eq padded_ne_nil
  | cons d ds =>
    have digit : d.isDigit := isDigit_of_mem_padded (eq ▸ List.mem_cons_self)
    exact trimStart_cons (isBlank_of_isDigit digit)

/-- A padded number is read back with what follows it. -/
lemma scanNumber?_padded (pos : 0 < width) (fits : n < 10 ^ width) :
    scanNumber? width (padded width n ++ rest) = some (n, rest) := by
  have length := length_padded pos fits
  have scanned : scanDigits? width (padded width n ++ rest) = some (padded width n, rest) :=
    scanDigits?_append padded_ne_nil (fun _ => isDigit_of_mem_padded) length.le (.inl length)
  rw [scanNumber?, trimStart_padded, scanned, Option.map_some, digitsValue_padded]

/-- A mark that is there is passed. -/
lemma afterMark?_cons (blank : isBlank c = false) : afterMark? c (c :: rest) = some rest := by
  rw [afterMark?, trimStart_cons blank]
  exact if_pos rfl

/-- The digits of a padded number end at the mark that follows. -/
lemma scanDigits?_padded_mark (width n : Nat) (rest : List Char) :
    scanDigits? (padded width n ++ '-' :: rest).length (padded width n ++ '-' :: rest) =
      some (padded width n, '-' :: rest) := by
  refine scanDigits?_append padded_ne_nil (fun _ => isDigit_of_mem_padded) ?_ (.inr ?_)
  · rw [List.length_append]
    exact Nat.le_add_right _ _
  · rintro _ ⟨⟩
    decide

/-! ## Dates and times -/

/-- A year is read back, with its sign where it is written. -/
lemma scanYear?_yearText (year : Int) :
    scanYear? (yearText year ++ '-' :: rest) = some (year, '-' :: rest) := by
  have signed := scanDigits?_padded_mark 4 year.natAbs rest
  unfold yearText
  split
  · next range =>
    have length : (padded 4 year.toNat).length = 4 := length_padded (by decide) (by omega)
    have scanned : scanDigits? 4 (padded 4 year.toNat ++ '-' :: rest) =
        some (padded 4 year.toNat, '-' :: rest) :=
      scanDigits?_append padded_ne_nil (fun _ => isDigit_of_mem_padded) length.le (.inl length)
    have value := digitsValue_padded 4 year.toNat
    rw [scanYear?, trimStart_padded]
    cases eq : padded 4 year.toNat with
    | nil => exact absurd eq padded_ne_nil
    | cons d ds =>
      have digit : d.isDigit := isDigit_of_mem_padded (eq ▸ List.mem_cons_self)
      have no_minus : d ≠ '-' := by
        rintro rfl
        contradiction
      have no_plus : d ≠ '+' := by
        rintro rfl
        contradiction
      rw [eq, List.cons_append] at scanned
      rw [eq] at value
      simp [no_minus, no_plus, scanned, value, Int.toNat_of_nonneg range.1]
  · next range =>
    have value := digitsValue_padded 4 year.natAbs
    split
    · next negative =>
      rw [List.cons_append, scanYear?, trimStart_cons rfl]
      simp only [signed, Option.map_some, value]
      rw [Int.ofNat_natAbs_of_nonpos negative.le, Int.neg_neg]
    · next positive =>
      rw [List.cons_append, scanYear?, trimStart_cons rfl]
      simp only [signed, Option.map_some, value]
      rw [Int.natAbs_of_nonneg (not_lt.1 positive)]

/-- No month has more than 31 days. -/
lemma daysInMonth_le (year : Int) (month : Nat) : Date.daysInMonth year month ≤ 31 := by
  unfold Date.daysInMonth
  split
  · split <;> decide
  · split <;> decide

/-- A valid date is read back. -/
lemma scanDate?_text {d : Date} (valid : d.isValid) :
    scanDate? (yearText d.year ++ '-' :: (padded 2 d.month ++ '-' :: (padded 2 d.day ++ rest))) =
      some (d, rest) := by
  have days := daysInMonth_le d.year d.month
  have bounds := valid
  simp only [Date.isValid, Bool.and_eq_true, decide_eq_true_eq] at bounds
  have month : ∀ rest, scanNumber? 2 (padded 2 d.month ++ rest) = some (d.month, rest) :=
    fun _ => scanNumber?_padded (by decide) (by omega)
  have day : ∀ rest, scanNumber? 2 (padded 2 d.day ++ rest) = some (d.day, rest) :=
    fun _ => scanNumber?_padded (by decide) (by omega)
  have mark : ∀ rest, afterMark? '-' ('-' :: rest) = some rest := fun _ => afterMark?_cons rfl
  simp [scanDate?, scanYear?_yearText, mark, month, day, valid]

/-- A fraction is scanned with all of its digits, however few are written. -/
lemma scanFraction?_fractionText (below : n < nanosPerSecond) :
    scanFraction? (fractionText n ++ 'Z' :: rest) = some (n, 'Z' :: rest) := by
  -- `k` digits that stand for the number of units which they count
  have fraction : ∀ width unit, 0 < width → width ≤ 9 → unit < 10 ^ width →
      scanFraction? ('.' :: (padded width unit ++ 'Z' :: rest)) =
        some (10 ^ (9 - width) * unit, 'Z' :: rest) := by
    intro width unit pos le fits
    have length := length_padded pos fits
    have scanned : scanDigits? 9 (padded width unit ++ 'Z' :: rest) =
        some (padded width unit, 'Z' :: rest) := by
      refine scanDigits?_append padded_ne_nil (fun _ => isDigit_of_mem_padded)
        (length.le.trans le) ?_
      right
      rintro _ ⟨⟩
      decide
    rw [scanFraction?, scanned, Option.map_some, digitsValue_append_replicate, length,
      digitsValue_padded]
    rfl
  have limit : nanosPerSecond = 1000000000 := rfl
  unfold fractionText
  split
  · next none => rw [none]; rfl
  · split
    · next millis =>
      rw [List.cons_append, fraction 3 _ (by decide) (by decide) (by omega)]
      have value : 10 ^ (9 - 3) * (n / 1000000) = n := by omega
      rw [value]
    · split
      · next micros =>
        rw [List.cons_append, fraction 6 _ (by decide) (by decide) (by omega)]
        have value : 10 ^ (9 - 6) * (n / 1000) = n := by omega
        rw [value]
      · rw [List.cons_append, fraction 9 _ (by decide) (by decide) (by omega)]
        simp

/-- A time is read back, a leap second with the nanoseconds past the minute. -/
lemma scanTime?_text {hour minute shown nanos : Nat} (rest : List Char) (hour_lt : hour < 24)
    (minute_lt : minute < 60) (shown_le : shown ≤ 60) (nanos_lt : nanos < nanosPerSecond) :
    scanTime? (padded 2 hour ++ ':' :: (padded 2 minute ++ ':' :: (padded 2 shown ++
        (fractionText nanos ++ 'Z' :: rest)))) =
      some (if shown = 60 then (hour * 3600 + minute * 60 + 59, nanos + nanosPerSecond, 'Z' :: rest)
        else (hour * 3600 + minute * 60 + shown, nanos, 'Z' :: rest)) := by
  have number : ∀ n ≤ 60, ∀ rest, scanNumber? 2 (padded 2 n ++ rest) = some (n, rest) :=
    fun n le rest => scanNumber?_padded (by decide) (Nat.lt_of_le_of_lt le (by decide))
  have mark : ∀ rest, afterMark? ':' (':' :: rest) = some rest := fun _ => afterMark?_cons rfl
  have fraction : scanFraction? (fractionText nanos ++ 'Z' :: rest) = some (nanos, 'Z' :: rest) :=
    scanFraction?_fractionText nanos_lt
  have valid : hour < 24 ∧ minute < 60 ∧ shown ≤ 60 := ⟨hour_lt, minute_lt, shown_le⟩
  simp only [scanTime?, number hour (by omega), number minute (by omega), number shown shown_le,
    mark, fraction, if_pos valid, Option.bind_eq_bind, Option.bind_some]
  split <;> rfl

/-- The time of an instant that a clock can show is scanned from its text: in a leap second the
clock shows the sixtieth second. -/
lemma IsValid.scanTime? {t : Instant} (valid : t.IsValid) :
    scanTime? (padded 2 (t.second / 3600) ++ ':' :: (padded 2 (t.second / 60 % 60) ++
        ':' :: (padded 2 (t.second % 60 + t.nanos / nanosPerSecond) ++
          (fractionText (t.nanos % nanosPerSecond) ++ ['Z'])))) =
      some (t.second, t.nanos, ['Z']) := by
  have day : t.second < 86400 := valid.second_lt
  have hour_lt : t.second / 3600 < 24 := by omega
  have minute_lt : t.second / 60 % 60 < 60 := Nat.mod_lt _ (by decide)
  have second_lt : t.second % 60 < 60 := Nat.mod_lt _ (by decide)
  have parts : t.second / 3600 * 3600 + t.second / 60 % 60 * 60 + t.second % 60 = t.second := by
    omega
  have nanos_lt : t.nanos % nanosPerSecond < nanosPerSecond := Nat.mod_lt _ (by decide)
  rcases Nat.lt_or_ge t.nanos nanosPerSecond with ordinary | leap
  · have none : t.nanos / nanosPerSecond = 0 := Nat.div_eq_of_lt ordinary
    rw [none, Nat.add_zero, scanTime?_text [] hour_lt minute_lt second_lt.le nanos_lt,
      if_neg second_lt.ne, parts, Nat.mod_eq_of_lt ordinary]
  · obtain ⟨last, below⟩ := valid.nanos_lt.resolve_left (Nat.not_lt.2 leap)
    have one : t.nanos / nanosPerSecond = 1 := Nat.div_eq_of_lt_le (by omega) (by omega)
    have whole := Nat.div_add_mod t.nanos nanosPerSecond
    rw [one] at whole
    rw [one, last, scanTime?_text [] hour_lt minute_lt (le_refl 60) nanos_lt, if_pos rfl, ← last,
      parts]
    have nanos : t.nanos % nanosPerSecond + nanosPerSecond = t.nanos := by omega
    rw [nanos]

/-- Clocks at no offset show the instant itself. -/
lemma IsValid.ofLocal? {t : Instant} (valid : t.IsValid) :
    ofLocal? t.date t.second t.nanos 0 = some t := by
  have day : t.second < 86400 := valid.second_lt
  have limit : (secondsPerDay : Int) = 86400 := rfl
  have below : ¬(secondsPerDay : Int) ≤ t.second - 0 := by omega
  have above : ¬(t.second : Int) - 0 < 0 := by omega
  have kept : (((t.second : Int) - 0) % secondsPerDay).toNat = t.second := by
    rw [Int.sub_zero, Int.emod_eq_of_lt (by omega) (by omega), Int.toNat_natCast]
  unfold Instant.ofLocal?
  simp only [if_neg above, if_neg below, kept, valid.date, if_true]

/-- An instant that a clock can show reads back from its text in records. -/
theorem read?_recordText {t : Instant} (valid : t.IsValid) :
    read? t.recordText.toList = some t := by
  have text : t.recordText.toList =
      yearText t.date.year ++ '-' :: (padded 2 t.date.month ++ '-' :: (padded 2 t.date.day ++
        'T' :: (padded 2 (t.second / 3600) ++ ':' :: (padded 2 (t.second / 60 % 60) ++
          ':' :: (padded 2 (t.second % 60 + t.nanos / nanosPerSecond) ++
            (fractionText (t.nanos % nanosPerSecond) ++ ['Z'])))))) := by
    simp [recordText, timeText]
  have offset : scanOffset? (trimStart ['Z']) = some (0, []) := rfl
  rw [text, read?, scanDate?_text valid.date]
  simp only [Option.bind_eq_bind, Option.bind_some, valid.scanTime?, offset]
  exact valid.ofLocal?

end ReplicaQuorum.Instant
