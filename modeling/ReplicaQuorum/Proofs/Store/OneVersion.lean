import ReplicaQuorum.Proofs.Store.Memory

/-!
# One roster for each version

Records of a segment that share a version should share a roster. A sink compares versions only, so
what it takes at the newest version of a segment decides: a different roster there is the one thing
that breaks the law.
-/

namespace ReplicaQuorum

/-- Records of a segment whose contents decode to the same version decode to the same roster. -/
def OneRosterPerVersion (segment : SegmentId) (records : List SnapshotRecord) : Prop :=
  ∀ r ∈ recordsOf segment records, ∀ k ∈ recordsOf segment records, ∀ m n,
    r.replicas = .ok m → k.replicas = .ok n → m.version = n.version → m.toRoster = n.toRoster

namespace MemorySink

variable {s t : MemorySink} {segment own : SegmentId} {rosters : List Roster} {now : Instant}
  {m : ReplicaSet}

/-- The law is one about the rosters that the sink holds of the segment. -/
lemma Holds.oneRosterPerVersion_iff (holds : s.Holds segment rosters) :
    OneRosterPerVersion segment s.records ↔
      ∀ a ∈ rosters, ∀ b ∈ rosters, a.version = b.version → a = b := by
  constructor
  · intro law a memA b memB same
    obtain ⟨r, memR, decodedR⟩ := holds.replicas_iff.2 ⟨a, memA, rfl⟩
    obtain ⟨k, memK, decodedK⟩ := holds.replicas_iff.2 ⟨b, memB, rfl⟩
    exact law r memR k memK _ _ decodedR decodedK same
  · intro law r memR k memK m n decodedR decodedK same
    obtain ⟨a, memA, rfl⟩ := holds.replicas_iff.1 ⟨r, memR, decodedR⟩
    obtain ⟨b, memB, rfl⟩ := holds.replicas_iff.1 ⟨k, memK, decodedK⟩
    exact law a memA b memB same

/-- A roster that is not below the last one agrees with all rosters of its version if these agree
with each other and the last one, should it have that version, is the same. -/
lemma law_append_iff {roster : Roster} (ascending : rosters.Pairwise (·.version ≤ ·.version))
    (above : ∀ r ∈ rosters.getLast?, r.version ≤ roster.version) :
    (∀ a ∈ rosters ++ [roster], ∀ b ∈ rosters ++ [roster], a.version = b.version → a = b) ↔
      (∀ a ∈ rosters, ∀ b ∈ rosters, a.version = b.version → a = b) ∧
        ∀ r ∈ rosters.getLast?, r.version = roster.version → r = roster := by
  constructor
  · intro law
    refine ⟨fun a memA b memB => law a (by simp [memA]) b (by simp [memB]), fun r last => ?_⟩
    have mem : r ∈ rosters := List.mem_of_getLast? last
    exact law r (by simp [mem]) roster (by simp)
  · rintro ⟨law, newest⟩
    -- an earlier roster of that version is not above the last one, which is not above it either
    have earlier : ∀ a ∈ rosters, a.version = roster.version → a = roster := by
      intro a mem same
      obtain ⟨last, found⟩ : ∃ last, rosters.getLast? = some last :=
        ⟨_, List.getLast?_eq_some_getLast (List.ne_nil_of_mem mem)⟩
      have between : last.version = roster.version :=
        le_antisymm (above last found) (same ▸ version_le_of_getLast? ascending found mem)
      rw [law a mem last (List.mem_of_getLast? found) (same.trans between.symm)]
      exact newest last found between
    intro a memA b memB same
    rcases List.mem_append.1 memA with inA | lastA <;>
      rcases List.mem_append.1 memB with inB | lastB
    · exact law a inA b inB same
    · obtain rfl := List.mem_singleton.1 lastB
      exact earlier a inA same
    · obtain rfl := List.mem_singleton.1 lastA
      exact (earlier b inB same.symm).symm
    · rw [List.mem_singleton.1 lastA, List.mem_singleton.1 lastB]

/-- What is persisted keeps the law exactly if it is no different roster at the newest version of
its segment. -/
theorem Written.oneRosterPerVersion_persist_iff (written : s.Written) (wf : m.WellFormed)
    (persisted : s.persist now own m = .ok t) :
    (∀ segment, OneRosterPerVersion segment t.records) ↔
      (∀ segment, OneRosterPerVersion segment s.records) ∧
        ∀ k, s.loadLatest own = .ok (some k) → m.version = k.version → m.toRoster = k.toRoster := by
  obtain ⟨rosters, holds⟩ := written.holds own
  obtain ⟨above, rfl⟩ := holds.persist_eq_ok_iff.1 persisted
  have grown : OneRosterPerVersion own (s.records ++ [.ofReplicaSet now own m]) ↔
      OneRosterPerVersion own s.records ∧
        ∀ r ∈ rosters.getLast?, r.version = m.version → r = m.toRoster := by
    rw [holds.oneRosterPerVersion_iff, ← law_append_iff holds.ascending above]
    exact (holds.append wf above).oneRosterPerVersion_iff
  have newest : (∀ r ∈ rosters.getLast?, r.version = m.version → r = m.toRoster) ↔
      ∀ k, s.loadLatest own = .ok (some k) → m.version = k.version → m.toRoster = k.toRoster := by
    rw [holds.loadLatest]
    constructor
    · intro last k loaded same
      rw [Except.ok.injEq, Option.map_eq_some_iff] at loaded
      obtain ⟨r, found, rfl⟩ := loaded
      exact (last r found same.symm).symm
    · intro last r found same
      exact (last (.ofRoster r) (by rw [found]; rfl) same.symm).symm
  have others : ∀ segment, own ≠ segment → (OneRosterPerVersion segment
      (s.records ++ [.ofReplicaSet now own m]) ↔ OneRosterPerVersion segment s.records) := by
    intro segment ne
    rw [OneRosterPerVersion, recordsOf_append_other _ ne]
    rfl
  constructor
  · intro law
    refine ⟨fun segment => ?_, newest.1 (grown.1 (law own)).2⟩
    by_cases eq : own = segment
    · exact eq ▸ (grown.1 (law own)).1
    · exact (others segment eq).1 (law segment)
  · rintro ⟨law, last⟩ segment
    by_cases eq : own = segment
    · exact eq ▸ grown.2 ⟨law own, newest.2 last⟩
    · exact (others segment eq).2 (law segment)

end MemorySink

end ReplicaQuorum
