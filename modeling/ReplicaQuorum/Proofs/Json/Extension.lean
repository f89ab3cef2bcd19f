import ReplicaQuorum.Json.Read
import ReplicaQuorum.Proofs.Text.Numeral

/-!
# Longer texts

What a scanner takes off the front of a text it also takes off a longer one, as long as it saw what
stops it: a string its quote, an array or an object its bracket, a number the character after its
digits. So an array or an object that is followed by anything but spaces is no value, and neither is
what starts with a blank that the format does not know.
-/

namespace ReplicaQuorum.Json

variable {s a rest : List Char} {c : Char} {fuel : Nat}

/-- A scanner that only builds on what another one takes leaves what that one leaves. -/
lemma map_eq_some {α β : Type} {build : α × List Char → β × List Char} {scanned : Scan α} {b : β}
    (h : scanned.map build = some (b, rest)) (leaves : ∀ r, (build r).2 = r.2) :
    ∃ a, scanned = some (a, rest) ∧ b = (build (a, rest)).1 := by
  obtain ⟨⟨a, left⟩, inner, eq⟩ := Option.map_eq_some_iff.1 h
  have same := leaves (a, left)
  rw [eq] at same
  obtain rfl : rest = left := same
  exact ⟨a, inner, by rw [eq]⟩

/-! ## Numbers -/

/-- What follows makes no difference to a scanner that leaves something of a text. -/
def Settled {α : Type} (scan : List Char → Scan α) : Prop :=
  ∀ s a rest, scan s = some (a, rest) → rest ≠ [] → ∀ more,
    scan (s ++ more) = some (a, rest ++ more)

/-- The digits of a number do not depend on what is added behind what stops them. -/
lemma scanDigits_settled : Settled scanDigits := by
  intro s a rest scanned ne more
  unfold scanDigits at scanned ⊢
  cases digits : s.takeWhile Char.isDigit with
  | nil => simp [digits] at scanned
  | cons d ds =>
    simp only [digits, Option.some.injEq, Prod.mk.injEq] at scanned
    obtain ⟨rfl, rfl⟩ := scanned
    have short : (s.takeWhile Char.isDigit).length ≠ s.length := by
      intro all
      have whole : s.takeWhile Char.isDigit ++ s.dropWhile Char.isDigit = s :=
        List.takeWhile_append_dropWhile
      have lengths := congrArg List.length whole
      rw [List.length_append, all] at lengths
      exact ne (List.eq_nil_of_length_eq_zero (by omega))
    have taken : (s ++ more).takeWhile Char.isDigit = d :: ds := by
      rw [List.takeWhile_append, if_neg short, digits]
    have dropped : (s ++ more).dropWhile Char.isDigit = s.dropWhile Char.isDigit ++ more := by
      rw [List.dropWhile_append, if_neg (by simpa using ne)]
    simp only [taken, dropped]

/-- Reading nothing depends on nothing. -/
lemma settled_nothing : Settled fun s => some (([] : List Char), s) := by
  rintro s a rest ⟨⟩ - more
  rfl

/-- A scanner that goes by whether the text starts with one of some marks. -/
lemma Settled.ofMarks (marks : List Char) {scan marked unmarked : List Char → Scan (List Char)}
    (hit : Settled marked) (miss : Settled unmarked)
    (of_mark : ∀ c ∈ marks, ∀ s, scan (c :: s) = (marked s).map fun r => (c :: r.1, r.2))
    (of_other : ∀ c ∉ marks, ∀ s, scan (c :: s) = unmarked (c :: s))
    (of_nil : ∀ a rest, scan [] = some (a, rest) → rest = []) : Settled scan := by
  intro s a rest scanned ne more
  cases s with
  | nil => exact absurd (of_nil a rest scanned) ne
  | cons c s =>
    by_cases mem : c ∈ marks
    · rw [of_mark c mem] at scanned
      obtain ⟨taken, inner, rfl⟩ := map_eq_some scanned fun _ => rfl
      rw [List.cons_append, of_mark c mem, hit _ _ _ inner ne more]
      rfl
    · rw [of_other c mem] at scanned
      rw [List.cons_append, of_other c mem]
      exact miss _ _ _ scanned ne more

/-- The whole part of a number is settled by what stops it. -/
lemma scanWhole_settled : Settled scanWhole := by
  refine .ofMarks ['0'] settled_nothing scanDigits_settled ?_ ?_ (by rintro a rest ⟨⟩)
  · intro c mem s
    obtain rfl := List.mem_singleton.1 mem
    rfl
  · intro c notMem s
    simp only [List.mem_singleton] at notMem
    simp [scanWhole, notMem]

/-- The fraction of a number is settled by what stops it. -/
lemma scanFraction_settled : Settled scanFraction := by
  refine .ofMarks ['.'] scanDigits_settled settled_nothing ?_ ?_ (by rintro a rest ⟨⟩; rfl)
  · intro c mem s
    obtain rfl := List.mem_singleton.1 mem
    rfl
  · intro c notMem s
    simp only [List.mem_singleton] at notMem
    simp [scanFraction, notMem]

/-- Digits with a sign are settled by what stops them. -/
lemma scanSignedDigits_settled : Settled scanSignedDigits := by
  refine .ofMarks ['+', '-'] scanDigits_settled scanDigits_settled ?_ ?_ (by rintro a rest ⟨⟩)
  · intro c mem s
    simp only [List.mem_cons, List.not_mem_nil, or_false] at mem
    rcases mem with rfl | rfl <;> rfl
  · intro c notMem s
    simp only [List.mem_cons, List.not_mem_nil, or_false, not_or] at notMem
    simp [scanSignedDigits, notMem]

/-- The exponent of a number is settled by what stops it. -/
lemma scanExponent_settled : Settled scanExponent := by
  refine .ofMarks ['e', 'E'] scanSignedDigits_settled settled_nothing ?_ ?_
    (by rintro a rest ⟨⟩; rfl)
  · intro c mem s
    simp only [List.mem_cons, List.not_mem_nil, or_false] at mem
    rcases mem with rfl | rfl <;> rfl
  · intro c notMem s
    simp only [List.mem_cons, List.not_mem_nil, or_false, not_or] at notMem
    simp [scanExponent, notMem]

/-- A number without its sign is settled by what stops it. -/
lemma scanMagnitude_settled : Settled scanMagnitude := by
  intro s a rest scanned ne more
  simp only [scanMagnitude, Option.bind_eq_some_iff, Option.map_eq_some_iff] at scanned
  obtain ⟨⟨w, left⟩, whole, ⟨f, right⟩, fraction, ⟨e, final⟩, exponent, eq⟩ := scanned
  obtain ⟨rfl, rfl⟩ := Prod.mk.inj eq
  simp only at fraction exponent ne
  -- what the later parts leave was there for the earlier ones
  have right_ne : right ≠ [] := by
    rintro rfl
    cases exponent
    exact ne rfl
  have left_ne : left ≠ [] := by
    rintro rfl
    cases fraction
    exact right_ne rfl
  have whole := scanWhole_settled _ _ _ whole left_ne more
  have fraction := scanFraction_settled _ _ _ fraction right_ne more
  have exponent := scanExponent_settled _ _ _ exponent ne more
  simp only [scanMagnitude, whole, fraction, exponent, Option.bind_some, Option.map_some]

/-- A number is settled by what stops it. -/
lemma scanNumber_settled : Settled scanNumber := by
  refine .ofMarks ['-'] scanMagnitude_settled scanMagnitude_settled ?_ ?_ (by rintro a rest ⟨⟩)
  · intro c mem s
    obtain rfl := List.mem_singleton.1 mem
    rfl
  · intro c notMem s
    simp only [List.mem_singleton] at notMem
    simp [scanNumber, notMem]

/-- A number starts with a digit or a sign. -/
lemma first_of_scanNumber {r : List Char × List Char} (scanned : scanNumber s = some r) :
    ∃ c cs, s = c :: cs ∧ (c.isDigit ∨ c = '-') := by
  cases s with
  | nil => cases scanned
  | cons c cs =>
    refine ⟨c, cs, rfl, ?_⟩
    by_cases minus : c = '-'
    · exact .inr minus
    · left
      by_cases zero : c = '0'
      · rw [zero]
        rfl
      · have magnitude : scanMagnitude (c :: cs) = some r := by
          simpa [scanNumber, minus] using scanned
        simp only [scanMagnitude, Option.bind_eq_some_iff] at magnitude
        obtain ⟨w, whole, -⟩ := magnitude
        have digits : scanDigits (c :: cs) = some w := by simpa [scanWhole, zero] using whole
        cases digit : c.isDigit with
        | true => rfl
        | false => simp [scanDigits, digit] at digits

/-! ## Strings -/

/-- A string that ends does not depend on what is added behind it. -/
lemma scanString_append (scanned : scanString s = some (a, rest)) (more : List Char) :
    scanString (s ++ more) = some (a, rest ++ more) := by
  fun_induction scanString s generalizing a rest with
  | case1 => cases scanned
  | case2 =>
    cases scanned
    rfl
  | case3 => cases scanned
  | case4 x y z w tail unit denotes ih =>
    obtain ⟨taken, inner, rfl⟩ := map_eq_some scanned fun _ => rfl
    simp [scanString, denotes, ih inner]
  | case5 => cases scanned
  | case6 letter tail no_unit denoted denotes ih =>
    obtain ⟨taken, inner, rfl⟩ := map_eq_some scanned fun _ => rfl
    have other : letter ≠ 'u' := by
      rintro rfl
      cases denotes
    simp [scanString, other, denotes, ih inner]
  | case7 => cases scanned
  | case8 c tail no_quote no_unit no_escape printed ih =>
    obtain ⟨taken, inner, rfl⟩ := map_eq_some scanned fun _ => rfl
    have no_backslash : c ≠ '\\' := by
      rintro rfl
      cases tail with
      | nil => cases inner
      | cons letter tail => exact no_escape letter tail rfl rfl
    simp [scanString, no_backslash, printed, ih inner]

/-! ## Values -/

/-- How a value is scanned off a text without spaces before it, within `fuel` more steps. -/
inductive ValueScan (fuel : Nat) : List Char → Json → List Char → Prop where
  | null (rest : List Char) : ValueScan fuel ('n' :: 'u' :: 'l' :: 'l' :: rest) .null rest
  | true (rest : List Char) : ValueScan fuel ('t' :: 'r' :: 'u' :: 'e' :: rest) (.bool true) rest
  | false (rest : List Char) :
    ValueScan fuel ('f' :: 'a' :: 'l' :: 's' :: 'e' :: rest) (.bool false) rest
  | string {s a rest : List Char} (scanned : scanString s = some (a, rest)) :
    ValueScan fuel ('"' :: s) (.string a) rest
  | emptyArray {s rest : List Char} (inside : skipSpace s = ']' :: rest) :
    ValueScan fuel ('[' :: s) (.array []) rest
  | array {s rest : List Char} {elements : List Json} (filled : ∀ t, skipSpace s ≠ ']' :: t)
    (scanned : scanElements fuel (skipSpace s) = some (elements, rest)) :
    ValueScan fuel ('[' :: s) (.array elements) rest
  | emptyObject {s rest : List Char} (inside : skipSpace s = '\x7d' :: rest) :
    ValueScan fuel ('\x7b' :: s) (.object []) rest
  | object {s rest : List Char} {members : List (List Char × Json)}
    (filled : ∀ t, skipSpace s ≠ '\x7d' :: t)
    (scanned : scanMembers fuel (skipSpace s) = some (members, rest)) :
    ValueScan fuel ('\x7b' :: s) (.object members) rest
  | number {s a rest : List Char} (scanned : scanNumber s = some (a, rest)) :
    ValueScan fuel s (.number a) rest

variable {v : Json} {elements : List Json} {members : List (List Char × Json)}

/-- There is something where a value is read. -/
lemma ValueScan.exists_cons (scanned : ValueScan fuel s v rest) : ∃ c cs, s = c :: cs := by
  cases scanned with
  | number scanned =>
    obtain ⟨c, cs, eq, -⟩ := first_of_scanNumber scanned
    exact ⟨c, cs, eq⟩
  | _ => exact ⟨_, _, rfl⟩

/-- Values are read as the relation says, once the blanks before them are passed. -/
lemma scanValue_iff : scanValue (fuel + 1) s = some (v, rest) ↔
    ValueScan fuel (skipSpace s) v rest := by
  rw [scanValue]
  generalize skipSpace s = text
  constructor
  · intro scanned
    split at scanned
    · cases scanned
      exact .null _
    · cases scanned
      exact .true _
    · cases scanned
      exact .false _
    · obtain ⟨a, inner, rfl⟩ := map_eq_some scanned fun _ => rfl
      exact .string inner
    · split at scanned
      · next inside =>
        cases scanned
        exact .emptyArray inside
      · next filled =>
        obtain ⟨elements, inner, rfl⟩ := map_eq_some scanned fun _ => rfl
        exact .array filled inner
    · split at scanned
      · next inside =>
        cases scanned
        exact .emptyObject inside
      · next filled =>
        obtain ⟨members, inner, rfl⟩ := map_eq_some scanned fun _ => rfl
        exact .object filled inner
    · obtain ⟨a, inner, rfl⟩ := map_eq_some scanned fun _ => rfl
      exact .number inner
  · intro scanned
    cases scanned with
    | null => rfl
    | true => rfl
    | false => rfl
    | string scanned => simp only [scanned, Option.map_some]
    | emptyArray inside => simp only [inside]
    | array filled scanned =>
      simp only [scanned, Option.map_some]
    | emptyObject inside => simp only [inside]
    | object filled scanned =>
      simp only [scanned, Option.map_some]
    | number scanned =>
      obtain ⟨c, cs, rfl, first⟩ := first_of_scanNumber scanned
      have other : ∀ k : Char, k.isDigit = false → k ≠ '-' → c ≠ k := by
        rintro k no_digit no_minus rfl
        rcases first with digit | minus
        · simp [no_digit] at digit
        · exact no_minus minus
      simp [other, scanned]

/-- The elements of an array are a first one and, after a comma, the elements that follow. -/
lemma scanElements_iff : scanElements (fuel + 1) s = some (elements, rest) ↔
    ∃ v left, scanValue fuel s = some (v, left) ∧
      ((skipSpace left = ']' :: rest ∧ elements = [v]) ∨
        ∃ right others, skipSpace left = ',' :: right ∧
          scanElements fuel right = some (others, rest) ∧ elements = v :: others) := by
  rw [scanElements]
  constructor
  · intro scanned
    split at scanned
    · cases scanned
    · next v left value =>
      refine ⟨v, left, value, ?_⟩
      split at scanned
      · next closed =>
        cases scanned
        exact .inl ⟨closed, rfl⟩
      · next right comma =>
        obtain ⟨others, inner, rfl⟩ := map_eq_some scanned fun _ => rfl
        exact .inr ⟨right, others, comma, inner, rfl⟩
      · cases scanned
  · rintro ⟨v, left, value, ⟨closed, rfl⟩ | ⟨right, others, comma, inner, rfl⟩⟩
    · simp only [value, closed]
    · simp only [value, comma, inner, Option.map_some]

/-- The members of an object are a first one and, after a comma, the members that follow. -/
lemma scanMembers_iff : scanMembers (fuel + 1) s = some (members, rest) ↔
    ∃ opened name named text v left, skipSpace s = '"' :: opened ∧
      scanString opened = some (name, named) ∧ skipSpace named = ':' :: text ∧
      scanValue fuel text = some (v, left) ∧
      ((skipSpace left = '\x7d' :: rest ∧ members = [(name, v)]) ∨
        ∃ right others, skipSpace left = ',' :: right ∧
          scanMembers fuel right = some (others, rest) ∧ members = (name, v) :: others) := by
  rw [scanMembers]
  constructor
  · intro scanned
    split at scanned
    · next opened quote =>
      split at scanned
      · cases scanned
      · next name named string =>
        split at scanned
        · next text colon =>
          split at scanned
          · cases scanned
          · next v left value =>
            refine ⟨opened, name, named, text, v, left, quote, string, colon, value, ?_⟩
            split at scanned
            · next closed =>
              cases scanned
              exact .inl ⟨closed, rfl⟩
            · next right comma =>
              obtain ⟨others, inner, rfl⟩ := map_eq_some scanned fun _ => rfl
              exact .inr ⟨right, others, comma, inner, rfl⟩
            · cases scanned
        · cases scanned
    · cases scanned
  · rintro ⟨opened, name, named, text, v, left, quote, string, colon, value,
      ⟨closed, rfl⟩ | ⟨right, others, comma, inner, rfl⟩⟩
    · simp only [quote, string, colon, value, closed]
    · simp only [quote, string, colon, value, comma, inner, Option.map_some]

/-! ## Longer texts -/

/-- Blanks that end stay the same ones if something is added. -/
lemma skipSpace_append (skipped : skipSpace s = c :: rest) (more : List Char) :
    skipSpace (s ++ more) = c :: (rest ++ more) := by
  unfold skipSpace at skipped ⊢
  rw [List.dropWhile_append, skipped]
  rfl

/-- What is scanned in `fuel` steps is scanned off longer texts in as many steps or more. A number
has to be followed by something already. -/
structure Extends (fuel : Nat) : Prop where
  value : ∀ s v rest, scanValue fuel s = some (v, rest) → (rest = [] → ∀ a, v ≠ number a) →
    ∀ steps ≥ fuel, ∀ more, scanValue steps (s ++ more) = some (v, rest ++ more)
  elements : ∀ s elements rest, scanElements fuel s = some (elements, rest) →
    ∀ steps ≥ fuel, ∀ more, scanElements steps (s ++ more) = some (elements, rest ++ more)
  members : ∀ s members rest, scanMembers fuel s = some (members, rest) →
    ∀ steps ≥ fuel, ∀ more, scanMembers steps (s ++ more) = some (members, rest ++ more)

/-- An opened array or object of which something is scanned holds something after its spaces. -/
lemma exists_cons_of_scanElements (scanned : scanElements fuel s = some (elements, rest)) :
    ∃ c cs, s = c :: cs := by
  cases s with
  | cons c cs => exact ⟨c, cs, rfl⟩
  | nil =>
    cases fuel with
    | zero => cases scanned
    | succ fuel =>
      cases fuel with
      | zero => cases scanned
      | succ fuel => cases scanned

/-- There is something where members are read. -/
lemma exists_cons_of_scanMembers (scanned : scanMembers fuel s = some (members, rest)) :
    ∃ c cs, s = c :: cs := by
  cases s with
  | cons c cs => exact ⟨c, cs, rfl⟩
  | nil =>
    cases fuel with
    | zero => cases scanned
    | succ fuel => cases scanned

/-- A value is read with something added behind it, if what it is made of is. -/
lemma Extends.valueScan (longer : Extends fuel) (scanned : ValueScan fuel s v rest)
    (stopped : rest = [] → ∀ a, v ≠ .number a) {steps : Nat} (enough : fuel ≤ steps)
    (more : List Char) : ValueScan steps (s ++ more) v (rest ++ more) := by
  cases scanned with
  | null => exact .null _
  | true => exact .true _
  | false => exact .false _
  | string scanned => exact .string (scanString_append scanned more)
  | emptyArray inside => exact .emptyArray (skipSpace_append inside more)
  | array filled scanned =>
    obtain ⟨c, cs, inside⟩ := exists_cons_of_scanElements scanned
    rw [List.cons_append]
    refine .array ?_ ?_
    · rintro t closed
      rw [skipSpace_append inside more] at closed
      cases closed
      exact filled _ inside
    · rw [skipSpace_append inside more, ← List.cons_append, ← inside]
      exact longer.elements _ _ _ scanned _ enough more
  | emptyObject inside => exact .emptyObject (skipSpace_append inside more)
  | object filled scanned =>
    obtain ⟨c, cs, inside⟩ := exists_cons_of_scanMembers scanned
    rw [List.cons_append]
    refine .object ?_ ?_
    · rintro t closed
      rw [skipSpace_append inside more] at closed
      cases closed
      exact filled _ inside
    · rw [skipSpace_append inside more, ← List.cons_append, ← inside]
      exact longer.members _ _ _ scanned _ enough more
  | number scanned =>
    have ne : rest ≠ [] := fun empty => stopped empty _ rfl
    exact .number (scanNumber_settled _ _ _ scanned ne more)

/-- However much fuel there is, what is read is read with something added behind it. -/
lemma extends_all (fuel : Nat) : Extends fuel := by
  induction fuel with
  | zero => exact ⟨nofun, nofun, nofun⟩
  | succ fuel ih =>
    -- whatever is followed by a bracket or a comma has seen what stops it
    have value : ∀ s v left c right, scanValue fuel s = some (v, left) →
        skipSpace left = c :: right → ∀ steps ≥ fuel, ∀ more,
          scanValue steps (s ++ more) = some (v, left ++ more) := by
      intro s v left c right scanned followed
      refine ih.value s v left scanned ?_
      rintro rfl
      cases followed
    refine ⟨?_, ?_, ?_⟩
    · intro s v rest scanned stopped steps enough more
      obtain ⟨steps, rfl⟩ : ∃ k, steps = k + 1 := ⟨steps - 1, by omega⟩
      rw [scanValue_iff] at scanned ⊢
      obtain ⟨c, cs, text⟩ := scanned.exists_cons
      rw [skipSpace_append text more, ← List.cons_append, ← text]
      exact ih.valueScan scanned stopped (Nat.le_of_succ_le_succ enough) more
    · intro s elements rest scanned steps enough more
      obtain ⟨steps, rfl⟩ : ∃ k, steps = k + 1 := ⟨steps - 1, by omega⟩
      have enough : fuel ≤ steps := Nat.le_of_succ_le_succ enough
      rw [scanElements_iff] at scanned ⊢
      obtain ⟨v, left, scanned, ⟨closed, rfl⟩ | ⟨right, others, comma, inner, rfl⟩⟩ := scanned
      · exact ⟨v, left ++ more, value _ _ _ _ _ scanned closed _ enough more,
          .inl ⟨skipSpace_append closed more, rfl⟩⟩
      · exact ⟨v, left ++ more, value _ _ _ _ _ scanned comma _ enough more,
          .inr ⟨right ++ more, others, skipSpace_append comma more,
            ih.elements _ _ _ inner _ enough more, rfl⟩⟩
    · intro s members rest scanned steps enough more
      obtain ⟨steps, rfl⟩ : ∃ k, steps = k + 1 := ⟨steps - 1, by omega⟩
      have enough : fuel ≤ steps := Nat.le_of_succ_le_succ enough
      rw [scanMembers_iff] at scanned ⊢
      obtain ⟨opened, name, named, text, v, left, quote, string, colon, scanned, last⟩ := scanned
      refine ⟨opened ++ more, name, named ++ more, text ++ more, v, left ++ more,
        skipSpace_append quote more, scanString_append string more, skipSpace_append colon more, ?_⟩
      obtain ⟨closed, rfl⟩ | ⟨right, others, comma, inner, rfl⟩ := last
      · exact ⟨value _ _ _ _ _ scanned closed _ enough more,
          .inl ⟨skipSpace_append closed more, rfl⟩⟩
      · exact ⟨value _ _ _ _ _ scanned comma _ enough more,
          .inr ⟨right ++ more, others, skipSpace_append comma more,
            ih.members _ _ _ inner _ enough more, rfl⟩⟩

/-- An array or an object that is followed by anything but spaces is no value. -/
theorem read?_append_eq_none {more : List Char} (read : read? s = some v)
    (no_number : ∀ a, v ≠ .number a) (printed : skipSpace more ≠ []) :
    read? (s ++ more) = none := by
  unfold read? at read
  split at read
  · next w rest scanned =>
    split at read
    · next closed =>
      cases read
      have spaces : skipSpace rest = [] := List.isEmpty_iff.1 closed
      have enough : 2 * s.length + 1 ≤ 2 * (s ++ more).length + 1 := by
        rw [List.length_append]
        omega
      have longer := (extends_all _).value s v rest scanned (fun _ => no_number) _ enough more
      have left : skipSpace (rest ++ more) = skipSpace more := by
        unfold skipSpace at spaces ⊢
        rw [List.dropWhile_append, spaces]
        rfl
      have filled : (skipSpace more).isEmpty = false := by simpa using printed
      rw [read?, longer]
      simp only [left, filled]
      rfl
    · cases read
  · cases read

/-- No value starts with a blank character, so one that is not skipped spoils the text. -/
theorem read?_eq_none_of_blank (skipped : skipSpace s = c :: rest)
    (blank : Text.isBlank c = true) : read? s = none := by
  have none : scanValue (2 * s.length + 1) s = none := by
    rw [Option.eq_none_iff_forall_ne_some]
    rintro ⟨v, left⟩ scanned
    rw [scanValue_iff, skipped] at scanned
    cases scanned with
    | number scanned =>
      obtain ⟨d, ds, eq, first⟩ := first_of_scanNumber scanned
      cases eq
      rcases first with digit | rfl
      · rw [Text.isBlank_of_isDigit digit] at blank
        cases blank
      · cases blank
    | _ => cases blank
  rw [read?, none]

end ReplicaQuorum.Json
