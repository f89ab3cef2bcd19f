/-!
# Texts in pieces

Splitting a text at each occurrence of a separator and putting pieces back together. A text always
splits into at least one piece, and joining the pieces gives the text back.
-/

namespace ReplicaQuorum.Text

/-- The pieces of a text between the occurrences of `sep`. -/
def split (sep : Char) : List Char → List (List Char)
  | [] => [[]]
  | c :: cs =>
    if c = sep then [] :: split sep cs
    else match split sep cs with
      | [] => [[c]]
      | piece :: pieces => (c :: piece) :: pieces

/-- The pieces with `sep` between each two of them. -/
def join (sep : List Char) : List (List Char) → List Char
  | [] => []
  | [piece] => piece
  | piece :: pieces => piece ++ sep ++ join sep pieces

/-- The text before and after the last occurrence of `sep`. -/
def splitLast (sep : Char) : List Char → Option (List Char × List Char)
  | [] => none
  | c :: cs => match splitLast sep cs with
    | some (before, after) => some (c :: before, after)
    | none => if c = sep then some ([], cs) else none

/-- A text has at least one piece. -/
theorem split_ne_nil (sep : Char) (s : List Char) : split sep s ≠ [] := by
  cases s with
  | nil => simp [split]
  | cons c cs =>
    unfold split
    split
    · simp
    · split <;> simp

/-- A text without the separator is its own only piece. -/
theorem split_eq_singleton {sep : Char} {s : List Char} (h : sep ∉ s) : split sep s = [s] := by
  induction s with
  | nil => rfl
  | cons c cs ih =>
    simp only [List.mem_cons, not_or] at h
    rw [split, if_neg (Ne.symm h.1), ih h.2]

/-- A piece without the separator is split off where the separator follows it. -/
theorem split_append_cons {sep : Char} {piece : List Char} (h : sep ∉ piece) (rest : List Char) :
    split sep (piece ++ sep :: rest) = piece :: split sep rest := by
  induction piece with
  | nil => simp [split]
  | cons c cs ih =>
    simp only [List.mem_cons, not_or] at h
    rw [List.cons_append, split, if_neg (Ne.symm h.1), ih h.2]

/-- A join is made of the separator and the pieces. -/
theorem mem_join {c : Char} {sep : List Char} {pieces : List (List Char)}
    (mem : c ∈ join sep pieces) : c ∈ sep ∨ ∃ piece ∈ pieces, c ∈ piece := by
  induction pieces with
  | nil => cases mem
  | cons piece rest ih =>
    cases rest with
    | nil => exact Or.inr ⟨piece, List.mem_cons_self .., mem⟩
    | cons next others =>
      simp only [join, List.append_assoc, List.mem_append] at mem
      rcases mem with mem | mem | mem
      · exact Or.inr ⟨piece, List.mem_cons_self .., mem⟩
      · exact Or.inl mem
      · rcases ih mem with mem | ⟨piece, memRest, mem⟩
        · exact Or.inl mem
        · exact Or.inr ⟨piece, List.mem_cons_of_mem _ memRest, mem⟩

/-- Pieces without the separator come back from their join. -/
theorem split_join {sep : Char} {pieces : List (List Char)} (ne : pieces ≠ [])
    (h : ∀ piece ∈ pieces, sep ∉ piece) : split sep (join [sep] pieces) = pieces := by
  induction pieces with
  | nil => exact absurd rfl ne
  | cons piece rest ih =>
    cases rest with
    | nil => exact split_eq_singleton (h piece (List.mem_cons_self ..))
    | cons next others =>
      rw [join, List.append_assoc, List.singleton_append,
        split_append_cons (h piece (List.mem_cons_self ..)),
        ih (by simp) (fun p mem => h p (List.mem_cons_of_mem _ mem))]
      simp

end ReplicaQuorum.Text
