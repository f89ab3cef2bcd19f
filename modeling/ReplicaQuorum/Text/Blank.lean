/-!
# Blank characters

The characters that count as white space around a field, and texts trimmed of them. The class is
Unicode's White_Space property, so the zero width space and the byte order mark are not blank.
-/

namespace ReplicaQuorum.Text

/-- The code point ranges of the White_Space property. -/
def blankRanges : List (Nat × Nat) :=
  [(0x9, 0xd), (0x20, 0x20), (0x85, 0x85), (0xa0, 0xa0), (0x1680, 0x1680), (0x2000, 0x200a),
   (0x2028, 0x2029), (0x202f, 0x202f), (0x205f, 0x205f), (0x3000, 0x3000)]

/-- A character with the White_Space property. -/
def isBlank (c : Char) : Bool :=
  blankRanges.any fun r => decide (r.1 ≤ c.toNat) && decide (c.toNat ≤ r.2)

/-- The text without its leading blanks. -/
def trimStart (s : List Char) : List Char :=
  s.dropWhile isBlank

/-- The text without its trailing blanks. -/
def trimEnd (s : List Char) : List Char :=
  (s.reverse.dropWhile isBlank).reverse

/-- The text without the blanks around it. -/
def trim (s : List Char) : List Char :=
  trimEnd (trimStart s)

/-- A text of blanks only. -/
def isAllBlank (s : List Char) : Bool :=
  s.all isBlank

/-- A text that neither starts nor ends with a blank is its own trimmed form. -/
theorem trim_eq_self {s : List Char} (first : ∀ c, s.head? = some c → isBlank c = false)
    (last : ∀ c, s.getLast? = some c → isBlank c = false) : trim s = s := by
  have start : trimStart s = s := by
    cases s with
    | nil => rfl
    | cons c cs => simp [trimStart, first c rfl]
  rw [trim, start, trimEnd]
  cases h : s.reverse with
  | nil => simpa using h.symm
  | cons c cs =>
    have : s.getLast? = some c := by rw [← List.head?_reverse, h]; rfl
    rw [List.dropWhile_cons, if_neg (by simp [last c this]), ← h, List.reverse_reverse]

/-- A text without blanks is its own trimmed form. -/
theorem trim_eq_self_of_forall {s : List Char} (h : ∀ c ∈ s, isBlank c = false) : trim s = s :=
  trim_eq_self (fun c first => h c (List.mem_of_head? first))
    (fun c last => h c (List.mem_of_getLast? last))

end ReplicaQuorum.Text
