import ReplicaQuorum.Word

/-!
# Sets of identifiers

A set of 64-bit identifiers, kept as its ascending list. The list is determined by the members, so
two sets with the same members are equal, and the order of the list is the order in which the
members are shown.
-/

namespace ReplicaQuorum

/-- The ascending list with `id` at its place. -/
def insertAscending (id : UInt64) : List UInt64 → List UInt64
  | [] => [id]
  | next :: rest =>
    if id < next then id :: next :: rest
    else if id = next then next :: rest
    else next :: insertAscending id rest

/-- The members after an insertion. -/
theorem mem_insertAscending {x id : UInt64} {ids : List UInt64} :
    x ∈ insertAscending id ids ↔ x = id ∨ x ∈ ids := by
  induction ids with
  | nil => simp [insertAscending]
  | cons next rest ih =>
    simp only [insertAscending]
    split
    · simp
    · split
      · next eq => simp [eq]
      · simp only [List.mem_cons, ih]
        constructor
        · rintro (h | h | h) <;> simp [h]
        · rintro (h | h | h) <;> simp [h]

/-- An insertion keeps the list ascending. -/
theorem pairwise_insertAscending {id : UInt64} {ids : List UInt64} (h : ids.Pairwise (· < ·)) :
    (insertAscending id ids).Pairwise (· < ·) := by
  induction ids with
  | nil => simp [insertAscending]
  | cons next rest ih =>
    obtain ⟨below, tail⟩ := List.pairwise_cons.1 h
    simp only [insertAscending]
    split
    · next lt =>
      refine List.pairwise_cons.2 ⟨fun x mem => ?_, h⟩
      rcases List.mem_cons.1 mem with rfl | mem
      · exact lt
      · exact UInt64.lt_trans lt (below x mem)
    · split
      · exact h
      · next nlt ne =>
        refine List.pairwise_cons.2 ⟨fun x mem => ?_, ih tail⟩
        rcases mem_insertAscending.1 mem with rfl | mem
        · exact UInt64.lt_of_le_of_ne (UInt64.not_lt.1 nlt) (Ne.symm ne)
        · exact below x mem

/-- A set of identifiers. -/
structure IdSet where
  /-- The members in ascending order. -/
  toList : List UInt64
  ascending : toList.Pairwise (· < ·)
deriving DecidableEq

namespace IdSet

/-- The set without members. -/
def empty : IdSet :=
  ⟨[], List.Pairwise.nil⟩

instance : EmptyCollection IdSet := ⟨empty⟩

instance : Inhabited IdSet := ⟨empty⟩

instance : Membership UInt64 IdSet := ⟨fun s id => id ∈ s.toList⟩

instance (id : UInt64) (s : IdSet) : Decidable (id ∈ s) :=
  inferInstanceAs (Decidable (id ∈ s.toList))

/-- The set with one more member. -/
def insert (id : UInt64) (s : IdSet) : IdSet :=
  ⟨insertAscending id s.toList, pairwise_insertAscending s.ascending⟩

/-- The set without a member. -/
def erase (id : UInt64) (s : IdSet) : IdSet :=
  ⟨s.toList.filter (· ≠ id), s.ascending.filter _⟩

/-- The set of the members of a list, in any order and with any repetitions. -/
def ofList (ids : List UInt64) : IdSet :=
  ids.foldr insert empty

/-- The members of either set. -/
def union (s t : IdSet) : IdSet :=
  s.toList.foldr insert t

instance : Union IdSet := ⟨union⟩

/-- The number of members. -/
def size (s : IdSet) : Nat :=
  s.toList.length

/-- A set without members. -/
def isEmpty (s : IdSet) : Bool :=
  s.toList.isEmpty

/-- The smallest member that two sets have in common. -/
def firstCommon (s t : IdSet) : Option UInt64 :=
  s.toList.find? (· ∈ t)

/-- The list of a set has the members of the set. -/
@[simp]
theorem mem_toList {id : UInt64} {s : IdSet} : id ∈ s.toList ↔ id ∈ s :=
  Iff.rfl

/-- Nothing is in the empty set. -/
@[simp]
theorem not_mem_empty {id : UInt64} : id ∉ (∅ : IdSet) :=
  fun h => by cases (h : id ∈ ([] : List UInt64))

/-- A set with one more member has that member and those that it had. -/
@[simp]
theorem mem_insert {x id : UInt64} {s : IdSet} : x ∈ s.insert id ↔ x = id ∨ x ∈ s :=
  mem_insertAscending

/-- A set without a member has the other ones. -/
@[simp]
theorem mem_erase {x id : UInt64} {s : IdSet} : x ∈ s.erase id ↔ x ∈ s ∧ x ≠ id := by
  show x ∈ s.toList.filter (· ≠ id) ↔ x ∈ s.toList ∧ x ≠ id
  simp [List.mem_filter]

/-- What is inserted one after the other is in the set besides what was there. -/
private theorem mem_foldr_insert {x : UInt64} {ids : List UInt64} {s : IdSet} :
    x ∈ ids.foldr insert s ↔ x ∈ ids ∨ x ∈ s := by
  induction ids with
  | nil => simp
  | cons id rest ih => simp [ih, or_assoc]

/-- The set of a list has what is on the list. -/
@[simp]
theorem mem_ofList {x : UInt64} {ids : List UInt64} : x ∈ ofList ids ↔ x ∈ ids := by
  rw [ofList, mem_foldr_insert]
  exact or_iff_left not_mem_empty

/-- The union of two sets has the members of both. -/
@[simp]
theorem mem_union {x : UInt64} {s t : IdSet} : x ∈ s ∪ t ↔ x ∈ s ∨ x ∈ t :=
  mem_foldr_insert

/-- A set is empty if it has no member. -/
theorem isEmpty_iff {s : IdSet} : s.isEmpty = true ↔ s = ∅ := by
  cases s with
  | mk ids ascending =>
    cases ids with
    | nil => simp [isEmpty, EmptyCollection.emptyCollection, empty]
    | cons id rest => simp [isEmpty, EmptyCollection.emptyCollection, empty]

/-- Ascending lists with the same members are the same. -/
private theorem eq_of_mem_iff {l k : List UInt64} (hl : l.Pairwise (· < ·))
    (hk : k.Pairwise (· < ·)) (h : ∀ x, x ∈ l ↔ x ∈ k) : l = k := by
  induction l generalizing k with
  | nil =>
    cases k with
    | nil => rfl
    | cons b bs => exact absurd ((h b).2 (List.mem_cons_self ..)) (List.not_mem_nil)
  | cons a as ih =>
    cases k with
    | nil => exact absurd ((h a).1 (List.mem_cons_self ..)) (List.not_mem_nil)
    | cons b bs =>
      obtain ⟨belowA, tailA⟩ := List.pairwise_cons.1 hl
      obtain ⟨belowB, tailB⟩ := List.pairwise_cons.1 hk
      have eq : a = b := by
        rcases List.mem_cons.1 ((h a).1 (List.mem_cons_self ..)) with e | memB
        · exact e
        · rcases List.mem_cons.1 ((h b).2 (List.mem_cons_self ..)) with e | memA
          · exact e.symm
          · exact absurd (UInt64.lt_trans (belowB a memB) (belowA b memA)) (UInt64.lt_irrefl b)
      subst eq
      rw [ih tailA tailB fun x => ?_]
      constructor
      · intro mem
        rcases List.mem_cons.1 ((h x).1 (List.mem_cons_of_mem _ mem)) with e | mem'
        · exact absurd (e ▸ belowA x mem) (UInt64.lt_irrefl _)
        · exact mem'
      · intro mem
        rcases List.mem_cons.1 ((h x).2 (List.mem_cons_of_mem _ mem)) with e | mem'
        · exact absurd (e ▸ belowB x mem) (UInt64.lt_irrefl _)
        · exact mem'

/-- Sets with the same members are equal. -/
@[ext]
theorem ext {s t : IdSet} (h : ∀ x, x ∈ s ↔ x ∈ t) : s = t := by
  cases s with
  | mk l hl =>
    cases t with
    | mk k hk =>
      have eq : l = k := eq_of_mem_iff hl hk h
      subst eq
      rfl

end IdSet

end ReplicaQuorum
