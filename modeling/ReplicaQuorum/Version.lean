import ReplicaQuorum.Word

/-!
# Versions

A version is an epoch and a generation. The epoch changes when the primary changes and restarts the
generation; every other edit moves the generation on. The epoch dominates the order.
-/

namespace ReplicaQuorum

/-- An epoch and the generation within it. -/
structure Version where
  epoch : UInt64
  generation : UInt64
deriving DecidableEq, Repr

namespace Version

/-- The version of a fresh draft. -/
def zero : Version := ⟨0, 0⟩

instance : LT Version :=
  ⟨fun v w => v.epoch < w.epoch ∨ v.epoch = w.epoch ∧ v.generation < w.generation⟩

instance (v w : Version) : Decidable (v < w) :=
  inferInstanceAs (Decidable (v.epoch < w.epoch ∨ v.epoch = w.epoch ∧ v.generation < w.generation))

/-- How two versions stand to each other. -/
def compare (v w : Version) : Ordering :=
  if v < w then .lt else if v = w then .eq else .gt

/-- The first version of the next epoch. -/
def nextEpoch (v : Version) : Except Overflow Version :=
  (advance64 v.epoch 1).map fun epoch => ⟨epoch, 0⟩

/-- The version `n` generations on in the same epoch. -/
def advance (v : Version) (n : Nat) : Except Overflow Version :=
  (advance64 v.generation n).map fun generation => ⟨v.epoch, generation⟩

/-- The version as it stands in messages. -/
def text (v : Version) : String :=
  s!"SegmentVersion(epoch={v.epoch}, generation={v.generation})"

/-- No version is below itself. -/
theorem lt_irrefl (v : Version) : ¬v < v := by
  rintro (h | h)
  · exact UInt64.lt_irrefl _ h
  · exact UInt64.lt_irrefl _ h.2

/-- The order of versions is transitive. -/
theorem lt_trans {u v w : Version} (huv : u < v) (hvw : v < w) : u < w := by
  rcases huv with h | h <;> rcases hvw with k | k
  · exact Or.inl (UInt64.lt_trans h k)
  · exact Or.inl (k.1 ▸ h)
  · exact Or.inl (h.1 ▸ k)
  · exact Or.inr ⟨h.1.trans k.1, UInt64.lt_trans h.2 k.2⟩

/-- Any two versions are equal or one is below the other. -/
theorem lt_or_eq_or_lt (v w : Version) : v < w ∨ v = w ∨ w < v := by
  rcases Decidable.em (v.epoch = w.epoch) with e | ne
  · rcases Decidable.em (v.generation = w.generation) with g | gne
    · exact Or.inr (Or.inl (by cases v; cases w; simp_all))
    · rcases UInt64.lt_or_lt_of_ne gne with h | h
      · exact Or.inl (Or.inr ⟨e, h⟩)
      · exact Or.inr (Or.inr (Or.inr ⟨e.symm, h⟩))
  · rcases UInt64.lt_or_lt_of_ne ne with h | h
    · exact Or.inl (Or.inl h)
    · exact Or.inr (Or.inr (Or.inl h))

/-- Going to the next epoch raises the version. -/
theorem lt_of_nextEpoch {v w : Version} (h : v.nextEpoch = .ok w) : v < w := by
  unfold nextEpoch at h
  cases step : advance64 v.epoch 1 with
  | error o => simp [step, Except.map] at h
  | ok epoch =>
    simp only [step, Except.map, Except.ok.injEq] at h
    subst h
    exact Or.inl (UInt64.lt_iff_toNat_lt.2 (by rw [toNat_of_advance64 step]; omega))

/-- Going generations on raises the version. -/
theorem lt_of_advance {v w : Version} {n : Nat} (h : v.advance n = .ok w) (pos : 0 < n) :
    v < w := by
  unfold advance at h
  cases step : advance64 v.generation n with
  | error o => simp [step, Except.map] at h
  | ok generation =>
    simp only [step, Except.map, Except.ok.injEq] at h
    subst h
    exact Or.inr ⟨rfl, UInt64.lt_iff_toNat_lt.2 (by rw [toNat_of_advance64 step]; omega)⟩

end Version

end ReplicaQuorum
