import ReplicaQuorum.Json.Decode
import ReplicaQuorum.Json.Read
import ReplicaQuorum.Proofs.Text.Numeral

/-!
# Reading back flat objects

A flat object, whose members are texts and natural numbers, reads back as it was written, also with
spaces before it. An escaped text ends at the quote after it and denotes the text again; a number
ends where its digits do.
-/

namespace ReplicaQuorum.Json

open Text

variable {c : Char} {s rest : List Char} {n fuel : Nat}

/-! ## Strings -/

/-- The three ways in which a character is spelled. -/
inductive SpelledChar (c : Char) : List Char → Prop where
  | short {letter : Char} (ne : letter ≠ 'u') (denotes : shortUnescape? letter = some c) :
    SpelledChar c ['\\', letter]
  | unit {x y z w : Char} (denotes : readUnit? x y z w = some c.toNat) (control : c.toNat < 0x20) :
    SpelledChar c ['\\', 'u', x, y, z, w]
  | plain (ne_quote : c ≠ '"') (ne_backslash : c ≠ '\\') (printed : ¬c.toNat < 0x20) :
    SpelledChar c [c]

/-- The four digits of a control character are read as its number. -/
lemma exists_unit (n : Nat) (control : n < 0x20) :
    ∃ x y z w, hexPadded 4 n = [x, y, z, w] ∧ readUnit? x y z w = some n := by
  have units : ∀ n : Fin 0x20,
      (hexPadded 4 n).length = 4 ∧ readHex? (hexPadded 4 n) = some n.val := by decide
  obtain ⟨four, denotes⟩ := units ⟨n, control⟩
  match digits : hexPadded 4 n, four with
  | [x, y, z, w], _ =>
    rw [digits] at denotes
    exact ⟨x, y, z, w, rfl, denotes⟩

/-- What is written for a character spells it. -/
lemma spelledChar_escapeChar (c : Char) : SpelledChar c (escapeChar c) := by
  cases short : shortEscape? c with
  | some letter =>
    have eq : escapeChar c = ['\\', letter] := by simp [escapeChar, short]
    rw [eq]
    unfold shortEscape? at short
    split at short <;> cases short
    all_goals exact .short (by decide) rfl
  | none =>
    have ne_quote : c ≠ '"' := by
      rintro rfl
      cases short
    have ne_backslash : c ≠ '\\' := by
      rintro rfl
      cases short
    by_cases control : c.toNat < 0x20
    · obtain ⟨x, y, z, w, digits, denotes⟩ := exists_unit c.toNat control
      have eq : escapeChar c = ['\\', 'u', x, y, z, w] := by
        simp [escapeChar, short, control, digits]
      rw [eq]
      exact .unit denotes control
    · have eq : escapeChar c = [c] := by simp [escapeChar, short, control]
      rw [eq]
      exact .plain ne_quote ne_backslash control

/-- A written string is read up to its closing quote. -/
lemma scanString_escape (s rest : List Char) :
    scanString (escape s ++ '"' :: rest) = some (escape s, rest) := by
  induction s with
  | nil => rfl
  | cons c s ih =>
    have split : escape (c :: s) = escapeChar c ++ escape s := List.flatMap_cons
    have spelled := spelledChar_escapeChar c
    rw [split, List.append_assoc]
    generalize escapeChar c = spelling at spelled ⊢
    cases spelled with
    | short ne denotes => simp [scanString, ne, denotes, ih]
    | unit denotes => simp [scanString, denotes, ih]
    | plain ne_quote ne_backslash printed =>
      simp [scanString, ne_backslash, printed, ih]

/-- What is written for a string stands for that string. -/
lemma unescape_escape (s : List Char) : unescape (escape s) = some s := by
  induction s with
  | nil => rfl
  | cons c s ih =>
    have split : escape (c :: s) = escapeChar c ++ escape s := List.flatMap_cons
    have spelled := spelledChar_escapeChar c
    rw [split]
    generalize escapeChar c = spelling at spelled ⊢
    cases spelled with
    | short ne denotes => simp [unescape, ne, denotes, ih]
    | unit denotes control =>
      have high : isHighSurrogate c.toNat = false := by
        simp only [isHighSurrogate, Bool.and_eq_false_iff, decide_eq_false_iff_not]
        omega
      have low : isLowSurrogate c.toNat = false := by
        simp only [isLowSurrogate, Bool.and_eq_false_iff, decide_eq_false_iff_not]
        omega
      simp [unescape, denotes, high, low, ih]
    | plain ne_quote ne_backslash printed => simp [unescape, ne_backslash, ih]

/-! ## Numbers -/

/-- Digits are read up to what is no digit. -/
lemma scanDigits_append {digits : List Char} (ne : digits ≠ []) (all : ∀ c ∈ digits, c.isDigit)
    (stop : ∀ c ∈ rest.head?, ¬c.isDigit) : scanDigits (digits ++ rest) = some (digits, rest) := by
  have stopped : rest.takeWhile Char.isDigit = [] ∧ rest.dropWhile Char.isDigit = rest := by
    cases rest with
    | nil => exact ⟨rfl, rfl⟩
    | cons c rest =>
      have none : ¬c.isDigit := stop c rfl
      exact ⟨List.takeWhile_cons_of_neg none, List.dropWhile_cons_of_neg none⟩
  have taken : (digits ++ rest).takeWhile Char.isDigit = digits := by
    rw [List.takeWhile_append_of_pos all, stopped.1, List.append_nil]
  have dropped : (digits ++ rest).dropWhile Char.isDigit = rest := by
    rw [List.dropWhile_append_of_pos all, stopped.2]
  unfold scanDigits
  rw [taken, dropped]
  cases digits with
  | nil => exact absurd rfl ne
  | cons c digits => rfl

/-- Only zero is written with a zero in front. -/
lemma decimal_eq_zero_cons {digits : List Char} (eq : decimal n = '0' :: digits) :
    digits = [] := by
  induction n using Nat.strongRecOn generalizing digits with
  | ind n ih =>
    rcases Nat.lt_or_ge n 10 with small | large
    · rw [decimal, Nat.toDigits_of_lt_base small] at eq
      exact (List.cons.inj eq).2.symm
    · -- the first digit is that of a tenth of the number, which is at least one
      rw [decimal, Nat.toDigits_of_base_le (by decide) large] at eq
      have tenth : 0 < n / 10 := Nat.div_pos large (by decide)
      cases first : Nat.toDigits 10 (n / 10) with
      | nil => exact absurd first Nat.toDigits_ne_nil
      | cons c cs =>
        rw [first, List.cons_append] at eq
        obtain ⟨rfl, -⟩ := List.cons.inj eq
        have alone : cs = [] := ih (n / 10) (Nat.div_lt_self (by omega) (by decide)) first
        have value : Nat.ofDigitChars 10 (Nat.toDigits 10 (n / 10)) 0 = n / 10 :=
          Nat.ofDigitChars_ten_toDigits
        rw [first, alone] at value
        have zero : Nat.ofDigitChars 10 ['0'] 0 = 0 := rfl
        omega

/-- A character that ends a number. -/
def EndsNumber (c : Char) : Prop :=
  ¬c.isDigit ∧ c ≠ '.' ∧ c ≠ 'e' ∧ c ≠ 'E'

/-- A written number is read up to what ends it. -/
lemma scanNumber_decimal (n : Nat) (rest : List Char) (ends : EndsNumber c) :
    scanNumber (decimal n ++ c :: rest) = some (decimal n, c :: rest) := by
  obtain ⟨no_digit, no_point, no_small, no_large⟩ := ends
  have whole : scanWhole (decimal n ++ c :: rest) = some (decimal n, c :: rest) := by
    have digits : scanDigits (decimal n ++ c :: rest) = some (decimal n, c :: rest) := by
      refine scanDigits_append (decimal_ne_nil n) (fun _ => isDigit_of_mem_decimal) ?_
      rintro _ ⟨⟩
      exact no_digit
    cases eq : decimal n with
    | nil => exact absurd eq (decimal_ne_nil n)
    | cons d ds =>
      rw [eq] at digits
      by_cases zero : d = '0'
      · subst zero
        rw [decimal_eq_zero_cons eq]
        rfl
      · rw [List.cons_append] at digits ⊢
        simpa [scanWhole, zero] using digits
  have magnitude : scanMagnitude (decimal n ++ c :: rest) = some (decimal n, c :: rest) := by
    simp [scanMagnitude, whole, scanFraction, scanExponent, no_point, no_small, no_large]
  cases eq : decimal n with
  | nil => exact absurd eq (decimal_ne_nil n)
  | cons d ds =>
    rw [eq] at magnitude
    have no_sign : d ≠ '-' := by
      rintro rfl
      have digit := isDigit_of_mem_decimal (eq ▸ List.mem_cons_self)
      contradiction
    rw [List.cons_append] at magnitude ⊢
    simpa [scanNumber, no_sign] using magnitude

/-! ## Members -/

/-- A text or a natural number. -/
inductive IsScalar : Json → Prop where
  | text (s : String) : IsScalar (text s)
  | nat (n : Nat) : IsScalar (nat n)

/-- A character that may follow the value of a member. -/
def FollowsMember (c : Char) : Prop :=
  c = ',' ∨ c = '\x7d'

/-- A written scalar is read back with what follows it. -/
lemma scanValue_scalar {v : Json} (scalar : IsScalar v) (follows : FollowsMember c) :
    scanValue (fuel + 1) (v.renderChars ++ c :: rest) = some (v, c :: rest) := by
  cases scalar with
  | text s =>
    have scanned := scanString_escape s.toList (c :: rest)
    simp [Json.text, renderChars, scanValue, skipSpace, isSpace, scanned]
  | nat n =>
    have ends : EndsNumber c := by
      rcases follows with rfl | rfl
      · exact ⟨by decide, by decide, by decide, by decide⟩
      · exact ⟨by decide, by decide, by decide, by decide⟩
    have scanned := scanNumber_decimal n rest ends
    cases eq : decimal n with
    | nil => exact absurd eq (decimal_ne_nil n)
    | cons d ds =>
      have digit : d.isDigit := isDigit_of_mem_decimal (eq ▸ List.mem_cons_self)
      have other : ∀ k : Char, k.isDigit = false → d ≠ k := by
        rintro k no_digit rfl
        exact absurd digit (by simp [no_digit])
      rw [eq, List.cons_append] at scanned
      simp [nat, eq, renderChars, scanValue, skipSpace, isSpace, other, scanned]

/-- The members of a flat object as they are spelled. -/
abbrev spelledMembers (members : List (String × Json)) : List (List Char × Json) :=
  members.map fun m => (escape m.1.toList, m.2)

/-- What a list of members is read from. -/
abbrev membersText (members : List (String × Json)) : List Char :=
  join [','] (renderMembers (spelledMembers members))

/-- There is nothing to skip before a character that is no blank. -/
lemma skipSpace_cons (printed : isSpace c = false) : skipSpace (c :: s) = c :: s :=
  List.dropWhile_cons_of_neg (by simp [printed])

/-- A member is scanned up to what follows it: the brace that closes the object, or more members. -/
lemma scanMembers_member {v : Json} (name : List Char) (scalar : IsScalar v)
    (follows : FollowsMember c) :
    scanMembers (fuel + 2) (renderMember (escape name, v) ++ c :: rest) =
      if c = ',' then (scanMembers (fuel + 1) rest).map fun r => ((escape name, v) :: r.1, r.2)
      else some ([(escape name, v)], rest) := by
  have spelled : renderMember (escape name, v) ++ c :: rest =
      '"' :: (escape name ++ '"' :: ':' :: (v.renderChars ++ c :: rest)) := by
    simp [renderMember]
  have value : scanValue (fuel + 1) (v.renderChars ++ c :: rest) = some (v, c :: rest) :=
    scanValue_scalar scalar follows
  rw [spelled, scanMembers, skipSpace_cons rfl]
  simp only [scanString_escape]
  rw [skipSpace_cons rfl]
  simp only [value]
  rcases follows with rfl | rfl
  · rw [skipSpace_cons rfl]
    rfl
  · rw [skipSpace_cons rfl]
    rfl

/-- The members of a flat object are scanned up to its closing brace. -/
lemma scanMembers_membersText {members : List (String × Json)} (ne : members ≠ [])
    (scalars : ∀ m ∈ members, IsScalar m.2) (enough : members.length < fuel) :
    scanMembers fuel (membersText members ++ '\x7d' :: rest) =
      some (spelledMembers members, rest) := by
  induction members generalizing fuel with
  | nil => exact absurd rfl ne
  | cons m others ih =>
    obtain ⟨first, later⟩ := List.forall_mem_cons.1 scalars
    obtain ⟨fuel, rfl⟩ : ∃ k, fuel = k + 2 := ⟨fuel - 2, by simp at enough; omega⟩
    cases others with
    | nil => exact scanMembers_member m.1.toList first (.inr rfl)
    | cons next others =>
      have scanned := ih (List.cons_ne_nil _ _) later (Nat.lt_of_succ_lt_succ enough)
      have split : membersText (m :: next :: others) ++ '\x7d' :: rest =
          renderMember (escape m.1.toList, m.2) ++
            ',' :: (membersText (next :: others) ++ '\x7d' :: rest) := by
        simp [membersText, renderMembers, join]
      rw [split, scanMembers_member m.1.toList first (.inl rfl), if_pos rfl, scanned]
      rfl

/-- Every member takes at least one character. -/
lemma length_le_length_membersText (members : List (String × Json)) :
    members.length ≤ (membersText members).length := by
  induction members with
  | nil => exact Nat.zero_le _
  | cons m others ih =>
    have quote : 0 < (renderMember (escape m.1.toList, m.2)).length := by
      simp [renderMember]
    cases others with
    | nil => exact quote
    | cons next others =>
      have split : membersText (m :: next :: others) =
          renderMember (escape m.1.toList, m.2) ++ ',' :: membersText (next :: others) := by
        simp [membersText, renderMembers, join]
      rw [split]
      simp only [List.length_append, List.length_cons] at ih ⊢
      omega

/-! ## Objects -/

/-- A flat object reads back as it was written, also with spaces before it. -/
theorem read?_record {spaces : List Char} {members : List (String × Json)}
    (space : ∀ c ∈ spaces, isSpace c) (ne : members ≠ []) (scalars : ∀ m ∈ members, IsScalar m.2) :
    read? (spaces ++ (record members).renderChars) = some (record members) := by
  obtain ⟨m, others, rfl⟩ := List.exists_cons_of_ne_nil ne
  obtain ⟨tail, first⟩ : ∃ tail, membersText (m :: others) ++ ['\x7d'] = '"' :: tail := by
    cases others with
    | nil => simp [membersText, renderMembers, renderMember, join]
    | cons next others => simp [membersText, renderMembers, renderMember, join]
  have text : (record (m :: others)).renderChars =
      '\x7b' :: (membersText (m :: others) ++ ['\x7d']) := by
    simp [record, renderChars, membersText]
  have skipped : skipSpace (spaces ++ (record (m :: others)).renderChars) =
      '\x7b' :: (membersText (m :: others) ++ ['\x7d']) := by
    rw [skipSpace, List.dropWhile_append_of_pos space, text]
    exact skipSpace_cons rfl
  have enough :
      (m :: others).length < 2 * (spaces ++ (record (m :: others)).renderChars).length := by
    have few := length_le_length_membersText (m :: others)
    rw [text]
    simp only [List.length_append, List.length_cons] at few ⊢
    omega
  rw [first] at skipped
  rw [read?, scanValue, skipped]
  generalize 2 * (spaces ++ (record (m :: others)).renderChars).length = fuel at enough ⊢
  have scanned : scanMembers fuel ('"' :: tail) = some (spelledMembers (m :: others), []) :=
    first ▸ scanMembers_membersText ne scalars enough
  simp only
  rw [skipSpace_cons rfl]
  simp [scanned, skipSpace, record]

/-! ## One line -/

/-- What is written for a character has no line feed. -/
lemma newline_notMem_escapeChar (c : Char) : '\n' ∉ escapeChar c := by
  unfold escapeChar
  cases short : shortEscape? c with
  | some letter =>
    unfold shortEscape? at short
    split at short <;> cases short
    all_goals decide
  | none =>
    have ne : c ≠ '\n' := by
      rintro rfl
      cases short
    dsimp only
    split
    · next control =>
      have units : ∀ n : Fin 0x20, '\n' ∉ hexPadded 4 n := by decide
      simpa using units ⟨c.toNat, control⟩
    · simpa using Ne.symm ne

/-- What is written for a string has no line feed. -/
lemma newline_notMem_escape (s : List Char) : '\n' ∉ escape s := by
  intro mem
  obtain ⟨c, -, mem⟩ := List.mem_flatMap.1 mem
  exact newline_notMem_escapeChar c mem

/-- What is written for a scalar has no line feed. -/
lemma newline_notMem_scalar {v : Json} (scalar : IsScalar v) : '\n' ∉ v.renderChars := by
  cases scalar with
  | text s => simp [text, renderChars, newline_notMem_escape]
  | nat n =>
    intro mem
    have digit := isDigit_of_mem_decimal mem
    contradiction

/-- A flat object stands on one line. -/
theorem newline_notMem_record {members : List (String × Json)}
    (scalars : ∀ m ∈ members, IsScalar m.2) : '\n' ∉ (record members).renderChars := by
  have pieces : renderMembers (spelledMembers members) =
      members.map fun m => renderMember (escape m.1.toList, m.2) := by
    induction members with
    | nil => rfl
    | cons m others ih => rw [List.map_cons, ← ih (List.forall_mem_cons.1 scalars).2]; rfl
  intro mem
  have mem : '\n' ∈ membersText members := by simpa [record, renderChars, membersText] using mem
  rcases mem_join mem with comma | ⟨piece, memPieces, mem⟩
  · simp at comma
  · rw [pieces] at memPieces
    obtain ⟨m, memMembers, rfl⟩ := List.mem_map.1 memPieces
    have value := newline_notMem_scalar (scalars m memMembers)
    simp [renderMember, newline_notMem_escape, value] at mem

/-! ## Typed readings -/

/-- A text is read back. -/
lemma asText?_text (s : String) : (text s).asText? = some s := by
  rw [text, asText?, unescape_escape, Option.map_some, String.ofList_toList]

/-- A number below the limit is read back. -/
lemma asNat?_nat {limit : Nat} (below : n < limit) : (nat n).asNat? limit = some n := by
  have digits : (decimal n).all Char.isDigit = true :=
    List.all_eq_true.2 fun _ mem => isDigit_of_mem_decimal mem
  have read : readDigits limit 0 (decimal n) = .ok n :=
    (readDigits_eq_ok_iff (Nat.zero_lt_of_lt below)).2
      ⟨fun _ => isDigit_of_mem_decimal, Nat.ofDigitChars_ten_toDigits, below⟩
  rw [nat, asNat?, if_pos digits, read]
  rfl

/-- A 64-bit word is read back. -/
lemma asUInt64?_nat (n : UInt64) : (nat n.toNat).asUInt64? = some n := by
  rw [asUInt64?, asNat?_nat n.toNat_lt, Option.map_some, UInt64.ofNat_toNat]

/-- A 32-bit word is read back. -/
lemma asUInt32?_nat (n : UInt32) : (nat n.toNat).asUInt32? = some n := by
  rw [asUInt32?, asNat?_nat n.toNat_lt, Option.map_some, UInt32.ofNat_toNat]

/-- The names of written members are read back. -/
lemma mapM_unescape (members : List (String × Json)) :
    (spelledMembers members).mapM (fun m => (unescape m.1).map fun name => (name, m.2)) =
      some (members.map fun m => (m.1.toList, m.2)) := by
  induction members with
  | nil => rfl
  | cons m members ih =>
    rw [spelledMembers, List.map_cons, List.mapM_cons, ih, unescape_escape]
    rfl

/-- There is one value of a name among members with different names. -/
lemma valuesOf_eq_singleton {members : List (String × Json)} {m : String × Json}
    (distinct : (members.map Prod.fst).Nodup) (mem : m ∈ members) :
    valuesOf m.1 (members.map fun m => (m.1.toList, m.2)) = [m.2] := by
  induction members with
  | nil => cases mem
  | cons first members ih =>
    obtain ⟨fresh, distinct⟩ := List.nodup_cons.1 distinct
    -- no other member has the name of this one
    have other : ∀ k ∈ members, first.1.toList ≠ k.1.toList :=
      fun k mem same => fresh (List.mem_map.2 ⟨k, mem, (String.toList_inj.1 same).symm⟩)
    rcases List.mem_cons.1 mem with rfl | mem
    · have none : (members.map fun k => (k.1.toList, k.2)).filter
          (fun k => k.1 = m.1.toList) = [] := by
        simp only [List.filter_eq_nil_iff, List.mem_map]
        rintro _ ⟨k, mem, rfl⟩
        simpa using (other k mem).symm
      rw [valuesOf, List.map_cons, List.filter_cons_of_pos (by simp), none]
      rfl
    · rw [valuesOf, List.map_cons, List.filter_cons_of_neg (by simpa using other m mem)]
      exact ih distinct mem

/-- An object gives its fields the values that they were written with. -/
lemma fields?_record {members : List (String × Json)} (distinct : (members.map Prod.fst).Nodup) :
    (record members).fields? (members.map Prod.fst) = some (members.map fun m => some m.2) := by
  have single : (members.map Prod.fst).all
      (fun name => (valuesOf name (members.map fun m => (m.1.toList, m.2))).length ≤ 1) = true := by
    simp only [List.all_eq_true, List.mem_map, decide_eq_true_eq]
    rintro _ ⟨m, mem, rfl⟩
    rw [valuesOf_eq_singleton distinct mem]
    exact Nat.le_refl 1
  rw [record, fields?, mapM_unescape]
  simp only [if_pos single, List.map_map]
  refine congrArg some (List.map_congr_left fun m mem => ?_)
  rw [Function.comp_apply, valuesOf_eq_singleton distinct mem]
  rfl

end ReplicaQuorum.Json
