import ReplicaQuorum.Proofs.Quorum.Count

/-!
# Write quorums in reach

The quorum check in closed form: over counts whose sum fits a word it asks the secondaries up to the
quorum, the joining secondaries up to what the secondaries left open, and all answers together for
the quorum. The closed form grows with every count, so a write can still complete exactly if it does
when everybody who has not failed answers well.
-/

namespace ReplicaQuorum

namespace RoleCounts

/-- The answers of `good` members suffice for a quorum when `asked` members of each role were asked.
The primary is one vote of the quorum. -/
structure Suffices (good : RoleCounts) (quorum : UInt32) (asked : RoleCounts) : Prop where
  secondaries : min (quorum.toNat - 1) asked.secondaries.toNat ≤ good.secondaries.toNat
  joining :
    min (quorum.toNat - 1 - good.secondaries.toNat) asked.joining.toNat ≤ good.joining.toNat
  votes : quorum.toNat - 1 ≤ good.sum

/-- There are at most as many members in each role. -/
structure AtMost (c d : RoleCounts) : Prop where
  secondaries : c.secondaries.toNat ≤ d.secondaries.toNat
  joining : c.joining.toNat ≤ d.joining.toNat
  arbiters : c.arbiters.toNat ≤ d.arbiters.toNat

/-- Of the members that were asked, `good` is at most what the `bad` ones leave. -/
structure Spares (asked bad good : RoleCounts) : Prop where
  secondaries : good.secondaries.toNat
    ≤ asked.secondaries.toNat - min bad.secondaries.toNat asked.secondaries.toNat
  joining : good.joining.toNat
    ≤ asked.joining.toNat - min bad.joining.toNat asked.joining.toNat
  arbiters : good.arbiters.toNat
    ≤ asked.arbiters.toNat - min bad.arbiters.toNat asked.arbiters.toNat

variable {good better asked bad : RoleCounts} {quorum : UInt32}

/-- There are no more votes than there are. -/
lemma AtMost.refl (c : RoleCounts) : c.AtMost c :=
  ⟨Nat.le_refl _, Nat.le_refl _, Nat.le_refl _⟩

/-- No more than what is no more. -/
lemma AtMost.trans (h : good.AtMost better) (k : better.AtMost asked) : good.AtMost asked :=
  ⟨Nat.le_trans h.secondaries k.secondaries, Nat.le_trans h.joining k.joining,
    Nat.le_trans h.arbiters k.arbiters⟩

/-- Where there are no more votes of any role, there are no more in all. -/
lemma AtMost.sum_le (h : good.AtMost better) : good.sum ≤ better.sum := by
  have := h.secondaries
  have := h.joining
  have := h.arbiters
  unfold sum
  omega

/-- More good answers suffice where fewer did. -/
lemma Suffices.mono (h : good.Suffices quorum asked) (le : good.AtMost better) :
    better.Suffices quorum asked where
  secondaries := Nat.le_trans h.secondaries le.secondaries
  joining := by
    have := h.joining
    have := le.secondaries
    have := le.joining
    omega
  votes := Nat.le_trans h.votes le.sum_le

/-- Where the secondaries fall short of the quorum, all that were asked have answered. -/
lemma Suffices.asked_secondaries_le (h : good.Suffices quorum asked)
    (short : good.secondaries.toNat < quorum.toNat - 1) :
    asked.secondaries.toNat ≤ good.secondaries.toNat := by
  have := h.secondaries
  omega

/-- Where the joining secondaries leave the quorum open too, all of them that were asked have
answered. -/
lemma Suffices.asked_joining_le (h : good.Suffices quorum asked)
    (short : good.secondaries.toNat + good.joining.toNat < quorum.toNat - 1) :
    asked.joining.toNat ≤ good.joining.toNat := by
  have := h.joining
  omega

/-- The members that the bad ones leave are at most what is left when they are taken away. -/
lemma spares_iff : asked.Spares bad good ↔ good.AtMost (asked.remainingAfter bad) := by
  have role (a b : UInt32) : (sub32 a b).toNat = a.toNat - min b.toNat a.toNat := by
    rw [toNat_sub32]
    omega
  constructor
  · rintro ⟨secondaries, joining, arbiters⟩
    exact ⟨(role _ _).symm ▸ secondaries, (role _ _).symm ▸ joining, (role _ _).symm ▸ arbiters⟩
  · rintro ⟨secondaries, joining, arbiters⟩
    exact ⟨role _ _ ▸ secondaries, role _ _ ▸ joining, role _ _ ▸ arbiters⟩

/-- Nobody is added when the bad members are taken away. -/
lemma remainingAfter_atMost (asked bad : RoleCounts) : (asked.remainingAfter bad).AtMost asked where
  secondaries := by
    rw [remainingAfter, toNat_sub32]
    omega
  joining := by
    rw [remainingAfter, toNat_sub32]
    omega
  arbiters := by
    rw [remainingAfter, toNat_sub32]
    omega

/-- What the comparisons of the check ask for over the natural numbers is the closed form. -/
lemma verdict_eq_true_iff : good.verdict quorum asked = true ↔ good.Suffices quorum asked := by
  have total : good.sum
      = good.secondaries.toNat + good.joining.toNat + good.arbiters.toNat := rfl
  constructor
  · intro reached
    dsimp only [verdict] at reached
    split at reached
    · cases reached
    split at reached
    · exact ⟨by omega, by omega, by omega⟩
    split at reached
    · cases reached
    split at reached
    · exact ⟨by omega, by omega, by omega⟩
    · have votes := of_decide_eq_true reached
      exact ⟨by omega, by omega, by omega⟩
  · rintro ⟨secondaries, joining, votes⟩
    dsimp only [verdict]
    rw [if_neg (by omega)]
    split
    · rfl
    rw [if_neg (by omega)]
    split
    · rfl
    · exact decide_eq_true (by omega)

end RoleCounts

/-- Where the answers can be counted, the check gives a verdict, and it is the closed form. -/
theorem checkWriteQuorum_of_sum_lt (quorum : UInt32) (asked : RoleCounts) {good : RoleCounts}
    (fits : good.sum < UInt32.size) :
    ∃ verdict, checkWriteQuorum quorum asked good = .ok verdict ∧
      (verdict = true ↔ good.Suffices quorum asked) := by
  have countable : ¬good.Overflows quorum asked :=
    fun overflows => Nat.not_lt.2 overflows.size_le_sum fits
  refine ⟨good.verdict quorum asked, ?_, RoleCounts.verdict_eq_true_iff⟩
  rw [checkWriteQuorum_eq, if_neg countable]

/-- Where the answers can be counted, the verdict is positive exactly if they suffice. -/
lemma checkWriteQuorum_eq_true_iff {quorum : UInt32} {asked good : RoleCounts}
    (fits : good.sum < UInt32.size) :
    checkWriteQuorum quorum asked good = .ok true ↔ good.Suffices quorum asked := by
  obtain ⟨verdict, eq, iff⟩ := checkWriteQuorum_of_sum_lt quorum asked fits
  rw [eq, Except.ok.injEq, iff]

/-- What the check decides and what follows from it. The verdict is positive exactly if the
secondaries have answered up to the quorum, the joining ones up to what the secondaries left open,
and all together reach it; so it stays positive when more members answer, and where it needed a
weaker role, everybody who was asked in the stronger roles has answered. -/
theorem checkWriteQuorum_closed_form (quorum : UInt32) (asked good : RoleCounts)
    (fits : good.sum < UInt32.size) :
    (∃ verdict, checkWriteQuorum quorum asked good = .ok verdict ∧
      (verdict = true ↔
        min (quorum.toNat - 1) asked.secondaries.toNat ≤ good.secondaries.toNat ∧
        min (quorum.toNat - 1 - good.secondaries.toNat) asked.joining.toNat
          ≤ good.joining.toNat ∧
        quorum.toNat - 1
          ≤ good.secondaries.toNat + good.joining.toNat + good.arbiters.toNat)) ∧
    (∀ better, good.AtMost better → better.sum < UInt32.size →
      checkWriteQuorum quorum asked good = .ok true →
      checkWriteQuorum quorum asked better = .ok true) ∧
    (checkWriteQuorum quorum asked good = .ok true →
      (good.secondaries.toNat < quorum.toNat - 1 →
        asked.secondaries.toNat ≤ good.secondaries.toNat) ∧
      (good.secondaries.toNat + good.joining.toNat < quorum.toNat - 1 →
        asked.secondaries.toNat ≤ good.secondaries.toNat ∧
        asked.joining.toNat ≤ good.joining.toNat)) := by
  refine ⟨?_, fun better le fitsBetter success => ?_, fun success => ?_⟩
  · obtain ⟨verdict, eq, iff⟩ := checkWriteQuorum_of_sum_lt quorum asked fits
    refine ⟨verdict, eq, iff.trans ⟨fun h => ⟨h.secondaries, h.joining, h.votes⟩, ?_⟩⟩
    rintro ⟨secondaries, joining, votes⟩
    exact ⟨secondaries, joining, votes⟩
  · have enough := (checkWriteQuorum_eq_true_iff fits).1 success
    exact (checkWriteQuorum_eq_true_iff fitsBetter).2 (enough.mono le)
  · have enough := (checkWriteQuorum_eq_true_iff fits).1 success
    refine ⟨enough.asked_secondaries_le, fun short => ⟨?_, enough.asked_joining_le short⟩⟩
    exact enough.asked_secondaries_le (by omega)

/-- A write of quorum five that needs an arbiter: both secondaries and the joining one have
answered, and with the other arbiters the write succeeds as well. -/
theorem closed_form_with_arbiter :
    RoleCounts.sum ⟨2, 1, 1⟩ < UInt32.size ∧
      checkWriteQuorum 5 ⟨2, 1, 3⟩ ⟨2, 1, 1⟩ = .ok true ∧
      checkWriteQuorum 5 ⟨2, 1, 3⟩ ⟨2, 1, 3⟩ = .ok true ∧
      (2 : UInt32).toNat ≤ (2 : UInt32).toNat ∧ (1 : UInt32).toNat ≤ (1 : UInt32).toNat := by
  have fits : RoleCounts.sum ⟨2, 1, 1⟩ < UInt32.size := by decide
  have success : checkWriteQuorum 5 ⟨2, 1, 3⟩ ⟨2, 1, 1⟩ = .ok true := by rfl
  obtain ⟨-, grows, exhausted⟩ := checkWriteQuorum_closed_form 5 ⟨2, 1, 3⟩ ⟨2, 1, 1⟩ fits
  have more : RoleCounts.AtMost ⟨2, 1, 1⟩ ⟨2, 1, 3⟩ := ⟨by decide, by decide, by decide⟩
  exact ⟨fits, success, grows ⟨2, 1, 3⟩ more (by decide) success,
    (exhausted success).2 (by decide)⟩

/-- A write is given up exactly when it cannot complete any more: whatever members were asked and
have failed, there is a verdict, and it is that no answers of the others satisfy the quorum. -/
theorem checkBadWriteQuorum_iff_out_of_reach (quorum : UInt32) (asked bad : RoleCounts)
    (fits : asked.sum < UInt32.size) :
    ∃ verdict, checkBadWriteQuorum quorum asked bad = .ok verdict ∧
      (verdict = true ↔
        ∀ good, asked.Spares bad good → checkWriteQuorum quorum asked good = .ok false) := by
  have le_asked {good : RoleCounts} (le : good.AtMost asked) : good.sum < UInt32.size :=
    Nat.lt_of_le_of_lt le.sum_le fits
  obtain ⟨best, best_eq, best_iff⟩ :=
    checkWriteQuorum_of_sum_lt quorum asked (le_asked (asked.remainingAfter_atMost bad))
  refine ⟨!best, by rw [checkBadWriteQuorum, best_eq]; rfl, ?_⟩
  constructor
  · intro hopeless good spared
    have le := RoleCounts.spares_iff.1 spared
    obtain ⟨verdict, eq, iff⟩ := checkWriteQuorum_of_sum_lt quorum asked
      (le_asked (le.trans (asked.remainingAfter_atMost bad)))
    rw [eq]
    -- what suffices of the spared answers would suffice of all that are left
    cases verdict with
    | false => rfl
    | true => simp [best_iff.2 ((iff.1 rfl).mono le)] at hopeless
  · intro hopeless
    have worst := hopeless _ (RoleCounts.spares_iff.2 (RoleCounts.AtMost.refl _))
    rw [best_eq] at worst
    cases worst
    rfl

/-- With one of two secondaries lost the arbiters cannot complete a write of quorum three. -/
theorem out_of_reach_without_secondary :
    RoleCounts.sum ⟨2, 0, 2⟩ < UInt32.size ∧
      checkBadWriteQuorum 3 ⟨2, 0, 2⟩ ⟨1, 0, 0⟩ = .ok true ∧
      ∀ good, RoleCounts.Spares ⟨2, 0, 2⟩ ⟨1, 0, 0⟩ good →
        checkWriteQuorum 3 ⟨2, 0, 2⟩ good = .ok false := by
  have fits : RoleCounts.sum ⟨2, 0, 2⟩ < UInt32.size := by decide
  have given_up : checkBadWriteQuorum 3 ⟨2, 0, 2⟩ ⟨1, 0, 0⟩ = .ok true := by rfl
  obtain ⟨verdict, eq, iff⟩ :=
    checkBadWriteQuorum_iff_out_of_reach 3 ⟨2, 0, 2⟩ ⟨1, 0, 0⟩ fits
  rw [given_up] at eq
  cases eq
  exact ⟨fits, given_up, iff.1 rfl⟩

end ReplicaQuorum
