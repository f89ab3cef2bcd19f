import Mathlib.Tactic.Basic
import ReplicaQuorum.Text.Blank
import ReplicaQuorum.Text.Numeral

/-!
# Reading numerals

Digits are read exactly if they are all decimal digits and their value is below the limit. So
reading accepts the numerals of the numbers below the limit and nothing else. The decimal digits of
a number are a numeral of it.
-/

namespace ReplicaQuorum.Text

/-- Digits that follow only make a value larger. -/
lemma le_ofDigitChars (cs : List Char) (value : Nat) : value ≤ Nat.ofDigitChars 10 cs value := by
  induction cs generalizing value with
  | nil => simp
  | cons c cs ih =>
    rw [Nat.ofDigitChars_cons]
    have := ih (10 * value + (c.toNat - '0'.toNat))
    omega

/-- Reading succeeds on digits whose value is below the limit, and only on these. -/
lemma readDigits_eq_ok_iff {limit value n : Nat} {cs : List Char} (below : value < limit) :
    readDigits limit value cs = .ok n ↔
      (∀ c ∈ cs, c.isDigit) ∧ Nat.ofDigitChars 10 cs value = n ∧ n < limit := by
  induction cs generalizing value with
  | nil =>
    simp only [readDigits, Except.ok.injEq, Nat.ofDigitChars_nil, List.not_mem_nil]
    constructor
    · rintro rfl
      exact ⟨nofun, rfl, below⟩
    · exact fun h => h.2.1
  | cons c cs ih =>
    rw [readDigits, Nat.ofDigitChars_cons]
    by_cases digit : c.isDigit
    · rw [if_pos digit]
      by_cases fits : 10 * value + digitValue c < limit
      · rw [if_pos fits, ih fits, digitValue]
        simp only [List.forall_mem_cons, digit, true_and]
      · -- what follows cannot bring the value below the limit again
        have large := le_ofDigitChars cs (10 * value + (c.toNat - '0'.toNat))
        simp only [if_neg fits, reduceCtorEq, false_iff]
        rintro ⟨-, rfl, small⟩
        exact fits (Nat.lt_of_le_of_lt large small)
    · simp [digit]

/-! ## Numerals -/

/-- One or more decimal digits and their value. -/
structure IsDigits (n : Nat) (s : List Char) : Prop where
  ne_nil : s ≠ []
  digits : ∀ c ∈ s, c.isDigit
  value : Nat.ofDigitChars 10 s 0 = n

/-- A numeral and its value: decimal digits, with or without a plus sign before them. -/
inductive IsNumeral (n : Nat) : List Char → Prop where
  | plain {s : List Char} : IsDigits n s → IsNumeral n s
  | signed {s : List Char} : IsDigits n s → IsNumeral n ('+' :: s)

/-- A numeral has no character besides digits and the sign. -/
lemma IsNumeral.isDigit_or_eq {n : Nat} {s : List Char} (numeral : IsNumeral n s) :
    ∀ c ∈ s, c.isDigit ∨ c = '+' := by
  cases numeral with
  | plain h => exact fun c mem => .inl (h.digits c mem)
  | signed h =>
    intro c mem
    rcases List.mem_cons.1 mem with rfl | mem
    · exact .inr rfl
    · exact .inl (h.digits c mem)

/-- Reading succeeds on the numerals whose value is below the limit, and only on these. -/
lemma readNumeral_eq_ok_iff {limit n : Nat} {s : List Char} (pos : 0 < limit) :
    readNumeral limit s = .ok n ↔ IsNumeral n s ∧ n < limit := by
  have unsigned {cs : List Char} (ne : cs ≠ []) :
      readDigits limit 0 cs = .ok n ↔ IsDigits n cs ∧ n < limit := by
    rw [readDigits_eq_ok_iff pos]
    exact ⟨fun h => ⟨⟨ne, h.1, h.2.1⟩, h.2.2⟩, fun h => ⟨h.1.digits, h.1.value, h.2⟩⟩
  have signed {cs : List Char} : IsNumeral n ('+' :: cs) ↔ IsDigits n cs := by
    constructor
    · rintro (h | h)
      · have := h.digits '+' List.mem_cons_self
        contradiction
      · exact h
    · exact .signed
  unfold readNumeral
  split
  · refine iff_of_false nofun ?_
    rintro ⟨h | -, -⟩
    exact h.ne_nil rfl
  · rw [signed]
    exact iff_of_false nofun fun h => h.1.ne_nil rfl
  · next ne =>
    rw [signed, unsigned fun empty => ne (empty ▸ rfl)]
  · next ne _ other =>
    rw [unsigned ne]
    refine and_congr_left fun _ => ⟨.plain, ?_⟩
    rintro (h | h)
    · exact h
    · exact absurd rfl (other _)

/-- A word is read from its numerals, and only from these. -/
lemma readUInt64_eq_ok_iff {n : UInt64} {s : List Char} :
    readUInt64 s = .ok n ↔ IsNumeral n.toNat s := by
  have numeral : readNumeral UInt64.size s = .ok n.toNat ↔ IsNumeral n.toNat s := by
    rw [readNumeral_eq_ok_iff (by decide), and_iff_left n.toNat_lt]
  rw [← numeral, readUInt64]
  cases read : readNumeral UInt64.size s with
  | error e => exact iff_of_false nofun nofun
  | ok k =>
    have below : k < UInt64.size := ((readNumeral_eq_ok_iff (by decide)).1 read).2
    rw [Except.map, Except.ok.injEq, Except.ok.injEq, ← UInt64.toNat_inj,
      UInt64.toNat_ofNat_of_lt' below]

/-! ## Written numbers -/

/-- The digits of a number are decimal digits. -/
lemma isDigit_of_mem_decimal {n : Nat} {c : Char} (mem : c ∈ decimal n) : c.isDigit :=
  Nat.isDigit_of_mem_toDigits (by decide) (by decide) mem

/-- A number has digits. -/
lemma decimal_ne_nil (n : Nat) : decimal n ≠ [] :=
  Nat.toDigits_ne_nil

/-- The digits of a number are a numeral of it. -/
lemma isNumeral_decimal (n : Nat) : IsNumeral n (decimal n) :=
  .plain ⟨decimal_ne_nil n, fun _ => isDigit_of_mem_decimal, Nat.ofDigitChars_ten_toDigits⟩

/-- A digit is not blank. -/
lemma isBlank_of_isDigit {c : Char} (digit : c.isDigit) : isBlank c = false := by
  obtain ⟨low, high⟩ := Char.isDigit_iff_toNat.1 digit
  have low : 48 ≤ c.toNat := low
  have high : c.toNat ≤ 57 := high
  simp only [isBlank, blankRanges, List.any_eq_false, Bool.and_eq_true, decide_eq_true_eq]
  intro range mem
  simp only [List.mem_cons, List.not_mem_nil, or_false] at mem
  rcases mem with rfl | rfl | rfl | rfl | rfl | rfl | rfl | rfl | rfl | rfl <;> omega

end ReplicaQuorum.Text
