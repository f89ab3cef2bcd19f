import Mathlib.Data.Finset.Card
import ReplicaQuorum.IdSet

/-!
# Counting the members of sets

The size of a set of identifiers is the number of its members, and sizes add up over sets that have
no member in common. Everything is read off the finite set of the members, whose cardinality is the
size.
-/

namespace ReplicaQuorum.IdSet

/-- A set lists each member once. -/
lemma nodup_toList (s : IdSet) : s.toList.Nodup :=
  s.ascending.imp fun {_ _} lt => UInt64.ne_of_lt lt

/-- The members as a finite set. -/
def toFinset (s : IdSet) : Finset UInt64 :=
  s.toList.toFinset

/-- The finite set has the members of the set. -/
@[simp]
lemma mem_toFinset {id : UInt64} {s : IdSet} : id ∈ s.toFinset ↔ id ∈ s :=
  List.mem_toFinset

/-- The size is the number of members. -/
lemma card_toFinset (s : IdSet) : s.toFinset.card = s.size :=
  List.toFinset_card_of_nodup s.nodup_toList

/-- A union is a union of finite sets. -/
lemma toFinset_union (s t : IdSet) : (s ∪ t).toFinset = s.toFinset ∪ t.toFinset := by
  ext id
  simp

/-- An insertion is an insertion into a finite set. -/
lemma toFinset_insert (id : UInt64) (s : IdSet) :
    (s.insert id).toFinset = Insert.insert id s.toFinset := by
  ext x
  simp

/-- What is erased is erased from the finite set. -/
lemma toFinset_erase (id : UInt64) (s : IdSet) : (s.erase id).toFinset = s.toFinset.erase id := by
  ext x
  simp [and_comm]

/-- The sizes of disjoint sets add up. -/
lemma size_union {s t : IdSet} (disjoint : ∀ id, id ∈ s → id ∉ t) :
    (s ∪ t).size = s.size + t.size := by
  have apart : Disjoint s.toFinset t.toFinset := by
    rw [Finset.disjoint_left]
    intro id mem
    simpa using disjoint id (by simpa using mem)
  rw [← card_toFinset, toFinset_union, Finset.card_union_of_disjoint apart, card_toFinset,
    card_toFinset]

/-- A new member adds one to the size. -/
lemma size_insert {id : UInt64} {s : IdSet} (new : id ∉ s) : (s.insert id).size = s.size + 1 := by
  have notMem : id ∉ s.toFinset := by simpa using new
  rw [← card_toFinset, toFinset_insert, Finset.card_insert_of_notMem notMem, card_toFinset]

/-- A member that goes takes one from the size. -/
lemma size_erase {id : UInt64} {s : IdSet} (mem : id ∈ s) : (s.erase id).size + 1 = s.size := by
  have held : id ∈ s.toFinset := by simpa using mem
  rw [← card_toFinset, toFinset_erase, Finset.card_erase_add_one held, card_toFinset]

/-- Nothing changes where there is nobody to take out. -/
lemma erase_of_notMem {id : UInt64} {s : IdSet} (notMem : id ∉ s) : s.erase id = s := by
  ext x
  rw [mem_erase]
  exact ⟨And.left, fun mem => ⟨mem, fun eq => notMem (eq ▸ mem)⟩⟩

end ReplicaQuorum.IdSet
