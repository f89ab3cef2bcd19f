import Mathlib.Data.List.TakeWhile
import ReplicaQuorum.Text.Blank
import ReplicaQuorum.Text.Pieces

/-!
# Trimmed texts and their pieces

What trimming and splitting give, told by how the text is put together: the trimmed text has no
blank at either end and only blanks around it, and the pieces give the text when they are joined.
-/

namespace ReplicaQuorum.Text

variable {s core before after : List Char} {sep : Char}

/-- What is left of a text without the blanks around it. -/
structure Trims (s core : List Char) : Prop where
  around : ∃ before after, s = before ++ core ++ after ∧
    (∀ c ∈ before, isBlank c) ∧ ∀ c ∈ after, isBlank c
  first : ∀ c, core.head? = some c → isBlank c = false
  last : ∀ c, core.getLast? = some c → isBlank c = false

/-- What stands in a text is blank or left after trimming. -/
lemma Trims.isBlank_or_mem (trims : Trims s core) {c : Char} (mem : c ∈ s) :
    isBlank c ∨ c ∈ core := by
  obtain ⟨before, after, rfl, leading, trailing⟩ := trims.around
  rcases List.mem_append.1 mem with mem | mem
  · rcases List.mem_append.1 mem with mem | mem
    · exact .inl (leading c mem)
    · exact .inr mem
  · exact .inl (trailing c mem)

/-- Blanks at the start are trimmed. -/
lemma trimStart_append (blank : ∀ c ∈ before, isBlank c) (s : List Char) :
    trimStart (before ++ s) = trimStart s :=
  List.dropWhile_append_of_pos blank

/-- Blanks at the end are trimmed. -/
lemma trimEnd_append (blank : ∀ c ∈ after, isBlank c) (s : List Char) :
    trimEnd (s ++ after) = trimEnd s := by
  rw [trimEnd, List.reverse_append,
    List.dropWhile_append_of_pos fun c mem => blank c (List.mem_reverse.1 mem), trimEnd]

/-- A text is its leading blanks and what is left without them. -/
lemma exists_trimStart (s : List Char) :
    ∃ before, s = before ++ trimStart s ∧ ∀ c ∈ before, isBlank c := by
  refine ⟨s.takeWhile isBlank, List.takeWhile_append_dropWhile.symm, ?_⟩
  exact List.all_eq_true.1 List.all_takeWhile

/-- A text is its trailing blanks and what is left without them. -/
lemma exists_trimEnd (s : List Char) :
    ∃ after, s = trimEnd s ++ after ∧ ∀ c ∈ after, isBlank c := by
  obtain ⟨before, eq, blank⟩ := exists_trimStart s.reverse
  refine ⟨before.reverse, ?_, fun c mem => blank c (List.mem_reverse.1 mem)⟩
  rw [trimEnd, ← List.reverse_append, ← trimStart, ← eq, List.reverse_reverse]

/-- What was trimmed at the start does not start with a blank. -/
lemma isBlank_of_head?_trimStart {c : Char} (first : (trimStart s).head? = some c) :
    isBlank c = false := by
  have stopped := List.head?_dropWhile_not isBlank s
  rw [show (s.dropWhile isBlank).head? = some c from first] at stopped
  exact stopped

/-- Trimming takes blanks away on both sides, and all of them. -/
lemma trims_trim (s : List Char) : Trims s (trim s) := by
  obtain ⟨before, start, leading⟩ := exists_trimStart s
  obtain ⟨after, rest, trailing⟩ := exists_trimEnd (trimStart s)
  refine ⟨⟨before, after, ?_, leading, trailing⟩, ?_, ?_⟩
  · rw [trim, List.append_assoc, ← rest, ← start]
  · intro c first
    have first : (trimEnd (trimStart s)).head? = some c := first
    apply isBlank_of_head?_trimStart (s := s)
    rw [rest, List.head?_append, first]
    rfl
  · intro c last
    apply isBlank_of_head?_trimStart (s := (trimStart s).reverse)
    rw [← List.getLast?_reverse]
    exact last

/-- Trimming gives what is left without the blanks around, and nothing else is. -/
lemma trim_eq_iff : trim s = core ↔ Trims s core := by
  constructor
  · rintro rfl
    exact trims_trim s
  · rintro ⟨⟨before, after, rfl, leading, trailing⟩, first, last⟩
    rw [trim, List.append_assoc, trimStart_append leading]
    cases core with
    | nil =>
      have nothing : trimStart after = [] := List.dropWhile_eq_nil_iff.2 trailing
      rw [List.nil_append, nothing]
      rfl
    | cons c cs =>
      have keeps (rest : List Char) : trimStart (c :: rest) = c :: rest := by
        rw [trimStart, List.dropWhile_cons, first c rfl]
        rfl
      have clean : trim (c :: cs) = c :: cs := trim_eq_self first last
      rw [trim, keeps] at clean
      rw [List.cons_append, keeps, ← List.cons_append, trimEnd_append trailing, clean]

/-! ## Pieces -/

/-- A separator stands behind the first of several pieces. -/
lemma join_cons {pieces : List (List Char)} (ne : pieces ≠ []) (piece : List Char) :
    join [sep] (piece :: pieces) = piece ++ sep :: join [sep] pieces := by
  cases pieces with
  | nil => exact absurd rfl ne
  | cons next rest => simp [join]

/-- The pieces give the text when they are joined. -/
lemma join_split (sep : Char) (s : List Char) : join [sep] (split sep s) = s := by
  induction s with
  | nil => rfl
  | cons c cs ih =>
    rw [split]
    split
    · next eq => rw [join_cons (split_ne_nil sep cs), ih, eq, List.nil_append]
    · split
      · next none => exact absurd none (split_ne_nil sep cs)
      · next piece pieces eq =>
        rw [eq] at ih
        cases pieces <;> simpa [join] using ih

end ReplicaQuorum.Text
