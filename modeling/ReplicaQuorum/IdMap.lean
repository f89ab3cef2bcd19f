import ReplicaQuorum.Word

/-!
# Maps keyed by identifiers

A finite map from 64-bit identifiers, kept as its list of entries in ascending order of the keys.
The list is determined by what the map holds at each key, so two maps that agree at every key are
equal.
-/

namespace ReplicaQuorum

/-- The ascending entries with `value` at `key`, in place of an older value. -/
def insertEntry {α : Type} (key : UInt64) (value : α) : List (UInt64 × α) → List (UInt64 × α)
  | [] => [(key, value)]
  | entry :: rest =>
    if key < entry.1 then (key, value) :: entry :: rest
    else if key = entry.1 then (key, value) :: rest
    else entry :: insertEntry key value rest

/-- The value at `key` among the entries. -/
def lookupEntry {α : Type} (key : UInt64) : List (UInt64 × α) → Option α
  | [] => none
  | entry :: rest => if key = entry.1 then some entry.2 else lookupEntry key rest

/-- The keys after an insertion. -/
theorem fst_of_mem_insertEntry {α : Type} {key : UInt64} {value : α} {entries : List (UInt64 × α)}
    {entry : UInt64 × α} (h : entry ∈ insertEntry key value entries) :
    entry.1 = key ∨ entry ∈ entries := by
  induction entries with
  | nil => simp_all [insertEntry]
  | cons first rest ih =>
    simp only [insertEntry] at h
    split at h
    · rcases List.mem_cons.1 h with rfl | h
      · exact Or.inl rfl
      · exact Or.inr h
    · split at h
      · rcases List.mem_cons.1 h with rfl | h
        · exact Or.inl rfl
        · exact Or.inr (List.mem_cons_of_mem _ h)
      · rcases List.mem_cons.1 h with rfl | h
        · exact Or.inr (List.mem_cons_self ..)
        · exact (ih h).imp_right (List.mem_cons_of_mem _)

/-- An insertion keeps the keys ascending. -/
theorem pairwise_insertEntry {α : Type} {key : UInt64} {value : α} {entries : List (UInt64 × α)}
    (h : entries.Pairwise (·.1 < ·.1)) : (insertEntry key value entries).Pairwise (·.1 < ·.1) := by
  induction entries with
  | nil => simp [insertEntry]
  | cons first rest ih =>
    obtain ⟨below, tail⟩ := List.pairwise_cons.1 h
    simp only [insertEntry]
    split
    · next lt =>
      refine List.pairwise_cons.2 ⟨fun entry mem => ?_, h⟩
      rcases List.mem_cons.1 mem with rfl | mem
      · exact lt
      · exact UInt64.lt_trans lt (below entry mem)
    · split
      · next eq => exact List.pairwise_cons.2 ⟨fun entry mem => eq ▸ below entry mem, tail⟩
      · next nlt ne =>
        refine List.pairwise_cons.2 ⟨fun entry mem => ?_, ih tail⟩
        rcases fst_of_mem_insertEntry mem with eq | mem
        · exact eq ▸ UInt64.lt_of_le_of_ne (UInt64.not_lt.1 nlt) (Ne.symm ne)
        · exact below entry mem

/-- A finite map from identifiers. -/
structure IdMap (α : Type) where
  /-- The entries in ascending order of their keys. -/
  toList : List (UInt64 × α)
  ascending : toList.Pairwise (·.1 < ·.1)
deriving DecidableEq

namespace IdMap

variable {α : Type}

/-- The map without entries. -/
def empty : IdMap α :=
  ⟨[], List.Pairwise.nil⟩

instance : EmptyCollection (IdMap α) := ⟨empty⟩

instance : Inhabited (IdMap α) := ⟨empty⟩

/-- The value at a key. -/
def get? (m : IdMap α) (key : UInt64) : Option α :=
  lookupEntry key m.toList

/-- The map with `value` at `key`, in place of an older value. -/
def insert (m : IdMap α) (key : UInt64) (value : α) : IdMap α :=
  ⟨insertEntry key value m.toList, pairwise_insertEntry m.ascending⟩

/-- What is found once a value is entered for a key. -/
private theorem lookupEntry_insertEntry {key k : UInt64} {value : α}
    {entries : List (UInt64 × α)} : lookupEntry k (insertEntry key value entries)
      = if k = key then some value else lookupEntry k entries := by
  induction entries with
  | nil => rfl
  | cons first rest ih =>
    simp only [insertEntry]
    split
    · rfl
    · split
      · next eq =>
        simp only [lookupEntry, ← eq]
        split <;> rfl
      · next ne =>
        simp only [lookupEntry, ih]
        by_cases h : k = first.1
        · rw [if_pos h, if_neg (fun e => ne (e.symm.trans h)), if_pos h]
        · rw [if_neg h, if_neg h]

/-- The empty map has no value for any key. -/
@[simp]
theorem get?_empty {key : UInt64} : (∅ : IdMap α).get? key = none :=
  rfl

/-- What a map holds after an insertion. -/
theorem get?_insert {m : IdMap α} {key k : UInt64} {value : α} :
    (m.insert key value).get? k = if k = key then some value else m.get? k :=
  lookupEntry_insertEntry

/-- A key has the value that was entered last. -/
@[simp]
theorem get?_insert_self {m : IdMap α} {key : UInt64} {value : α} :
    (m.insert key value).get? key = some value := by
  rw [get?_insert, if_pos rfl]

/-- A key below all keys of the entries is not found. -/
private theorem lookupEntry_eq_none_of_lt {key : UInt64} {entries : List (UInt64 × α)}
    (h : ∀ entry ∈ entries, key < entry.1) : lookupEntry key entries = none := by
  induction entries with
  | nil => rfl
  | cons first rest ih =>
    have ne : key ≠ first.1 := fun e => UInt64.lt_irrefl _ (e ▸ h first (List.mem_cons_self ..))
    rw [lookupEntry, if_neg ne]
    exact ih fun entry mem => h entry (List.mem_cons_of_mem _ mem)

/-- Ascending entries are determined by what is found in them. -/
private theorem eq_of_lookupEntry_eq {l k : List (UInt64 × α)} (hl : l.Pairwise (·.1 < ·.1))
    (hk : k.Pairwise (·.1 < ·.1)) (h : ∀ x, lookupEntry x l = lookupEntry x k) : l = k := by
  induction l generalizing k with
  | nil =>
    cases k with
    | nil => rfl
    | cons b bs => simpa [lookupEntry] using h b.1
  | cons a as ih =>
    cases k with
    | nil => simpa [lookupEntry] using h a.1
    | cons b bs =>
      obtain ⟨belowA, tailA⟩ := List.pairwise_cons.1 hl
      obtain ⟨belowB, tailB⟩ := List.pairwise_cons.1 hk
      have key : a.1 = b.1 := by
        refine Decidable.byContradiction fun ne => ?_
        rcases UInt64.lt_or_lt_of_ne ne with lt | lt
        · have absent : lookupEntry a.1 bs = none :=
            lookupEntry_eq_none_of_lt fun entry mem => UInt64.lt_trans lt (belowB entry mem)
          simpa [lookupEntry, ne, absent] using h a.1
        · have absent : lookupEntry b.1 as = none :=
            lookupEntry_eq_none_of_lt fun entry mem => UInt64.lt_trans lt (belowA entry mem)
          simpa [lookupEntry, Ne.symm ne, absent] using h b.1
      have value : a.2 = b.2 := by simpa [lookupEntry, key] using h a.1
      rw [Prod.ext key value, ih tailA tailB fun x => ?_]
      by_cases e : x = a.1
      · subst e
        rw [lookupEntry_eq_none_of_lt belowA, key, lookupEntry_eq_none_of_lt belowB]
      · simpa [lookupEntry, e, key ▸ e] using h x

/-- Maps that agree at every key are equal. -/
@[ext]
theorem ext {m n : IdMap α} (h : ∀ key, m.get? key = n.get? key) : m = n := by
  cases m with
  | mk l hl =>
    cases n with
    | mk k hk =>
      have eq : l = k := eq_of_lookupEntry_eq hl hk h
      subst eq
      rfl

end IdMap

end ReplicaQuorum
