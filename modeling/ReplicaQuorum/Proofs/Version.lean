import Mathlib.Order.Defs.LinearOrder
import ReplicaQuorum.Version

/-!
# The order of versions

Versions are linearly ordered, by their epochs first and then by their generations. Where a version
moves on is told in numbers, so that sums which do not fit a word need no case of their own.
-/

namespace ReplicaQuorum.Version

instance : LinearOrder Version where
  le v w := v < w ∨ v = w
  le_refl _ := .inr rfl
  le_trans u v w := by
    rintro (uv | rfl) (vw | rfl)
    · exact .inl (lt_trans uv vw)
    · exact .inl uv
    · exact .inl vw
    · exact .inr rfl
  lt_iff_le_not_ge v w := by
    constructor
    · intro vw
      refine ⟨.inl vw, ?_⟩
      rintro (wv | rfl)
      · exact lt_irrefl v (lt_trans vw wv)
      · exact lt_irrefl _ vw
    · rintro ⟨vw | rfl, above⟩
      · exact vw
      · exact absurd (.inr rfl) above
  le_antisymm v w := by
    rintro (vw | rfl) (wv | eq)
    · exact absurd (lt_trans vw wv) (lt_irrefl v)
    · exact eq.symm
    · rfl
    · rfl
  le_total v w := by
    rcases lt_or_eq_or_lt v w with vw | eq | wv
    · exact .inl (.inl vw)
    · exact .inl (.inr eq)
    · exact .inr (.inl wv)
  toDecidableLE v w := inferInstanceAs (Decidable (v < w ∨ v = w))

/-- Versions compare as greater exactly if the second one is below the first. -/
lemma compare_eq_gt_iff {v w : Version} : v.compare w = .gt ↔ w < v := by
  unfold compare
  rcases lt_or_eq_or_lt v w with vw | rfl | wv
  · have above := lt_asymm vw
    simp [vw, above]
  · rw [if_neg (lt_irrefl v), if_pos rfl]
    exact ⟨nofun, fun below => absurd below (lt_irrefl v)⟩
  · have below := lt_asymm wv
    have ne : v ≠ w := by
      rintro rfl
      exact lt_irrefl v wv
    simp [wv, below, ne]

/-- Versions compare as less exactly if the first one is below the second. -/
lemma compare_eq_lt_iff {v w : Version} : v.compare w = .lt ↔ v < w := by
  unfold compare
  by_cases below : v < w
  · simp [below]
  · by_cases eq : v = w <;> simp [below, eq]

/-! ## Moving on -/

/-- A word has the one that is `n` steps after it, if that is a word. -/
lemma advance64_eq_ok_iff {a c : UInt64} {n : Nat} :
    advance64 a n = .ok c ↔ c.toNat = a.toNat + n := by
  constructor
  · exact toNat_of_advance64
  · intro sum
    have fits : a.toNat + n < UInt64.size := sum ▸ c.toNat_lt
    rw [advance64, if_pos fits, ← sum, UInt64.ofNat_toNat]

/-- Moving generations on leads that much further in the same epoch. -/
lemma advance_eq_ok_iff {v w : Version} {n : Nat} :
    v.advance n = .ok w ↔ w.epoch = v.epoch ∧ w.generation.toNat = v.generation.toNat + n := by
  unfold advance
  rw [← advance64_eq_ok_iff]
  cases advance64 v.generation n with
  | error o => simp [Except.map]
  | ok generation => cases w; simp [Except.map, eq_comm]

/-- The next epoch is one further on and starts with generation zero. -/
lemma nextEpoch_eq_ok_iff {v w : Version} :
    v.nextEpoch = .ok w ↔ w.epoch.toNat = v.epoch.toNat + 1 ∧ w.generation = 0 := by
  unfold nextEpoch
  rw [← advance64_eq_ok_iff]
  cases advance64 v.epoch 1 with
  | error o => simp [Except.map]
  | ok epoch => cases w; simp [Except.map, eq_comm]

/-- There are as many generations ahead as the word has room for. -/
lemma exists_advance {v : Version} {n : Nat} (fits : v.generation.toNat + n < UInt64.size) :
    ∃ w, v.advance n = .ok w := by
  refine ⟨⟨v.epoch, .ofNat (v.generation.toNat + n)⟩, advance_eq_ok_iff.2 ⟨rfl, ?_⟩⟩
  exact UInt64.toNat_ofNat_of_lt' fits

/-- There is a next epoch as long as the word has room for it. -/
lemma exists_nextEpoch {v : Version} (fits : v.epoch.toNat + 1 < UInt64.size) :
    ∃ w, v.nextEpoch = .ok w := by
  refine ⟨⟨.ofNat (v.epoch.toNat + 1), 0⟩, nextEpoch_eq_ok_iff.2 ⟨?_, rfl⟩⟩
  exact UInt64.toNat_ofNat_of_lt' fits

/-- The next epoch does not depend on the generation. -/
lemma nextEpoch_congr {v w : Version} (same : v.epoch = w.epoch) : v.nextEpoch = w.nextEpoch := by
  rw [nextEpoch, nextEpoch, same]

end ReplicaQuorum.Version
