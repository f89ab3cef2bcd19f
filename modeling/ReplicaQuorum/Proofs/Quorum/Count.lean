import Mathlib.Tactic.Basic
import ReplicaQuorum.Command

/-!
# Counting answers

The quorum check compares and adds 32-bit counts that come from its caller. It gives the verdict
that the same comparisons give over the natural numbers, except where it comes to a sum that does
not fit a word. There it gives none, although the answers reach the quorum: a sum is taken only if
the secondaries fall short, and one that does not fit is larger than any quorum.
-/

namespace ReplicaQuorum

/-! ## Words as numbers -/

/-- A difference of counts stops at zero. -/
lemma toNat_sub32 (a b : UInt32) : (sub32 a b).toNat = a.toNat - b.toNat := by
  unfold sub32
  split
  · next le => exact UInt32.toNat_sub_of_le a b le
  · next lt =>
    rw [UInt32.le_iff_toNat_le] at lt
    simp only [UInt32.toNat_zero]
    omega

/-- The smaller of two counts has the smaller value. -/
lemma toNat_min32 (a b : UInt32) : (min a b).toNat = min a.toNat b.toNat := by
  show (if a ≤ b then a else b).toNat = _
  split
  · next le =>
    rw [UInt32.le_iff_toNat_le] at le
    omega
  · next lt =>
    rw [UInt32.le_iff_toNat_le] at lt
    omega

/-- A sum that fits is there. -/
lemma add32_of_lt {a b : UInt32} (fits : a.toNat + b.toNat < UInt32.size) :
    ∃ c, add32 a b = .ok c ∧ c.toNat = a.toNat + b.toNat := by
  have sum : add32 a b = .ok (a + b) := if_pos fits
  exact ⟨a + b, sum, toNat_of_add32 sum⟩

/-- A sum that does not fit is not there. -/
lemma add32_of_le {a b : UInt32} (large : UInt32.size ≤ a.toNat + b.toNat) :
    add32 a b = .error .addition :=
  if_neg (Nat.not_lt.2 large)

/-! ## The verdict over the natural numbers -/

namespace RoleCounts

/-- The number of members in all three roles. -/
def sum (c : RoleCounts) : Nat :=
  c.secondaries.toNat + c.joining.toNat + c.arbiters.toNat

/-- The verdict that the comparisons of the check give over the natural numbers. -/
def verdict (good : RoleCounts) (quorum : UInt32) (asked : RoleCounts) : Bool :=
  let needed := quorum.toNat - 1
  let data := good.secondaries.toNat + good.joining.toNat
  if good.secondaries.toNat < min needed asked.secondaries.toNat then false
  else if needed ≤ good.secondaries.toNat then true
  else if good.joining.toNat < min (needed - good.secondaries.toNat) asked.joining.toNat then false
  else if needed ≤ data then true
  else decide (needed ≤ data + good.arbiters.toNat)

/-- The check comes to a sum that does not fit: the secondaries that were asked have all answered
and fall short of the quorum, and together with the joining ones they are too many for a word; or
these fall short as well, with all joining ones that were asked, and the arbiters make too many. -/
def Overflows (good : RoleCounts) (quorum : UInt32) (asked : RoleCounts) : Prop :=
  asked.secondaries.toNat ≤ good.secondaries.toNat ∧
  good.secondaries.toNat < quorum.toNat - 1 ∧
  (UInt32.size ≤ good.secondaries.toNat + good.joining.toNat ∨
    asked.joining.toNat ≤ good.joining.toNat ∧
    good.secondaries.toNat + good.joining.toNat < quorum.toNat - 1 ∧
    UInt32.size ≤ good.sum)

instance (good : RoleCounts) (quorum : UInt32) (asked : RoleCounts) :
    Decidable (good.Overflows quorum asked) :=
  inferInstanceAs (Decidable (_ ∧ _ ∧ (_ ∨ _)))

variable {good asked : RoleCounts} {quorum : UInt32}

/-- A count that overflows has more votes than a word can hold. -/
lemma Overflows.size_le_sum (overflows : good.Overflows quorum asked) :
    UInt32.size ≤ good.sum := by
  obtain ⟨-, -, sums⟩ := overflows
  unfold sum at *
  omega

/-- Answers that are too many for a word reach every quorum. -/
lemma Overflows.verdict_eq_true (overflows : good.Overflows quorum asked) :
    good.verdict quorum asked = true := by
  have bound : quorum.toNat < UInt32.size := quorum.toNat_lt
  have large := overflows.size_le_sum
  obtain ⟨answered, short, sums⟩ := overflows
  unfold sum at large
  dsimp only [verdict]
  rw [if_neg (by omega), if_neg (by omega), if_neg (by omega)]
  split
  · rfl
  · exact decide_eq_true (by omega)

end RoleCounts

/-- What the check does once the secondaries fall short: it adds the joining ones and, if they leave
the quorum open, the arbiters. -/
lemma countVotes_eq (needed secondaries joining arbiters : UInt32) :
    (do
      let data ← add32 secondaries joining
      if needed ≤ data then .ok true
      else do
        let votes ← add32 data arbiters
        .ok (decide (needed ≤ votes)) : Except Overflow Bool) =
      let data := secondaries.toNat + joining.toNat
      if UInt32.size ≤ data ∨ data < needed.toNat ∧ UInt32.size ≤ data + arbiters.toNat then
        .error .addition
      else .ok (if needed.toNat ≤ data then true
        else decide (needed.toNat ≤ data + arbiters.toNat)) := by
  dsimp only
  rcases Nat.lt_or_ge (secondaries.toNat + joining.toNat) UInt32.size with fits | large
  · obtain ⟨data, data_eq, data_val⟩ := add32_of_lt fits
    simp only [data_eq, bind, Except.bind]
    split
    · next reached =>
      rw [UInt32.le_iff_toNat_le, data_val] at reached
      rw [if_neg (by omega), if_pos reached]
    next low =>
    rw [UInt32.le_iff_toNat_le, data_val] at low
    rcases Nat.lt_or_ge (data.toNat + arbiters.toNat) UInt32.size with fits | large
    · obtain ⟨votes, votes_eq, votes_val⟩ := add32_of_lt fits
      simp only [votes_eq, UInt32.le_iff_toNat_le, votes_val, data_val]
      rw [if_neg (by omega), if_neg low]
    · rw [add32_of_le large, if_pos (by omega)]
  · rw [add32_of_le large, if_pos (.inl large)]
    rfl

/-- The check fails where it comes to a sum that does not fit, and elsewhere gives the verdict of
the same comparisons over the natural numbers. -/
theorem checkWriteQuorum_eq (quorum : UInt32) (asked good : RoleCounts) :
    checkWriteQuorum quorum asked good =
      if good.Overflows quorum asked then .error .addition
      else .ok (good.verdict quorum asked) := by
  have needed : (sub32 quorum 1).toNat = quorum.toNat - 1 := by
    rw [toNat_sub32, UInt32.toNat_one]
  have bound : quorum.toNat < UInt32.size := quorum.toNat_lt
  simp only [checkWriteQuorum, RoleCounts.verdict, countVotes_eq]
  -- one branch of the check after the other; the early ones come to no sum
  split
  · next few =>
    rw [UInt32.lt_iff_toNat_lt, toNat_min32, needed] at few
    rw [if_pos few, if_neg]
    rintro ⟨answered, -⟩
    omega
  next enough =>
  rw [UInt32.lt_iff_toNat_lt, toNat_min32, needed] at enough
  rw [if_neg enough]
  split
  · next reached =>
    rw [UInt32.le_iff_toNat_le, needed] at reached
    rw [if_pos reached, if_neg]
    rintro ⟨-, short, -⟩
    omega
  next short =>
  have shortfall : (sub32 quorum 1 - good.secondaries).toNat
      = quorum.toNat - 1 - good.secondaries.toNat := by
    rw [UInt32.not_le] at short
    rw [UInt32.toNat_sub_of_le _ _ (UInt32.le_of_lt short), needed]
  rw [UInt32.le_iff_toNat_le, needed] at short
  rw [if_neg short]
  split
  · next few =>
    rw [UInt32.lt_iff_toNat_lt, toNat_min32, shortfall] at few
    rw [if_pos few, if_neg]
    rintro ⟨-, -, sums⟩
    omega
  next filled =>
  rw [UInt32.lt_iff_toNat_lt, toNat_min32, shortfall] at filled
  rw [if_neg filled, needed]
  have overflows : UInt32.size ≤ good.secondaries.toNat + good.joining.toNat ∨
      good.secondaries.toNat + good.joining.toNat < quorum.toNat - 1 ∧
        UInt32.size ≤ good.secondaries.toNat + good.joining.toNat + good.arbiters.toNat ↔
      good.Overflows quorum asked := by
    unfold RoleCounts.Overflows RoleCounts.sum
    omega
  simp only [overflows]

/-- What the command that asks for a write tells of the verdict. -/
def Command.writeReport (quorum : UInt32) (good : RoleCounts) (reached : Bool) : Json :=
  .sortedRecord
    [("write_quorum", .nat quorum.toNat),
     ("good", .sortedRecord
       [("secondaries", .nat good.secondaries.toNat), ("joining", .nat good.joining.toNat),
        ("arbiters", .nat good.arbiters.toNat)]),
     ("quorum_reached", .bool reached)]

/-- The command that asks for a write to a content fails where the check does, and tells its verdict
elsewhere. -/
lemma answerCheckWrite_eq {content : String} {m : ReplicaSet}
    (decoded : Content.decode content = .ok m) (quorum : UInt32) (good : RoleCounts) :
    Command.answerCheckWrite content quorum good =
      if good.Overflows quorum m.broadcastCounts then .error (.overflow .addition)
      else .ok (Command.writeReport quorum good (good.verdict quorum m.broadcastCounts)) := by
  simp only [Command.answerCheckWrite, decoded, Command.ofMembership, bind, Except.bind,
    Roster.completesWrite, checkWriteQuorum_eq]
  by_cases overflows : good.Overflows quorum m.broadcastCounts
  · simp only [if_pos overflows, Fault.ofChecked]
  · simp only [if_neg overflows, Fault.ofChecked]
    rfl

/-- Whatever counts it is called with, the check gives the verdict of the same comparisons over the
natural numbers unless it comes to a sum that does not fit; then it gives none, although the answers
reach the quorum. For a write to a content the command fails at the same counts, and tells that
verdict at all others. -/
theorem verdict_unless_overflow (quorum : UInt32) (good : RoleCounts) :
    (∀ asked, checkWriteQuorum quorum asked good =
      if good.Overflows quorum asked then .error .addition
      else .ok (good.verdict quorum asked)) ∧
    (∀ asked, good.Overflows quorum asked →
      good.verdict quorum asked = true ∧ UInt32.size ≤ good.sum) ∧
    (∀ content m, Content.decode content = .ok m →
      Command.answerCheckWrite content quorum good =
        if good.Overflows quorum m.broadcastCounts then .error (.overflow .addition)
        else .ok (Command.writeReport quorum good (good.verdict quorum m.broadcastCounts))) :=
  ⟨fun asked => checkWriteQuorum_eq quorum asked good,
    fun _ overflows => ⟨overflows.verdict_eq_true, overflows.size_le_sum⟩,
    fun _ _ decoded => answerCheckWrite_eq decoded quorum good⟩

/-- Where the secondary reaches the quorum, the other answers may be too many for a word; where it
does not, they are counted, and that fails. -/
theorem verdict_unless_overflow_early :
    ∃ (good : RoleCounts) (m : ReplicaSet), good = ⟨1, 4294967295, 4294967295⟩ ∧
      UInt32.size ≤ good.sum ∧ Content.decode "1,0,1,-1,2,,,,-1,-1" = .ok m ∧
      ¬good.Overflows 2 m.broadcastCounts ∧
      Command.answerCheckWrite "1,0,1,-1,2,,,,-1,-1" 2 good
        = .ok (Command.writeReport 2 good true) ∧
      good.Overflows 3 m.broadcastCounts ∧ good.verdict 3 m.broadcastCounts = true ∧
      Command.answerCheckWrite "1,0,1,-1,2,,,,-1,-1" 3 good = .error (.overflow .addition) := by
  let good : RoleCounts := ⟨1, 4294967295, 4294967295⟩
  let m : ReplicaSet := .ofRoster { version := ⟨1, 0⟩, primary := 1, secondaries := .ofList [2] }
  have content : Content.decode "1,0,1,-1,2,,,,-1,-1" = .ok m := by rfl
  have fits : ¬good.Overflows 2 m.broadcastCounts := by decide
  have overflows : good.Overflows 3 m.broadcastCounts := by decide
  obtain ⟨-, -, early⟩ := verdict_unless_overflow 2 good
  obtain ⟨-, met, late⟩ := verdict_unless_overflow 3 good
  have answer := early _ m content
  have failure := late _ m content
  rw [if_neg fits] at answer
  rw [if_pos overflows] at failure
  obtain ⟨reached, large⟩ := met _ overflows
  exact ⟨good, m, rfl, large, content, fits, answer, overflows, reached, failure⟩

/-- One secondary and all joining secondaries that a word can count reach a quorum of three, but the
check has no verdict on them. -/
theorem met_quorum_without_verdict :
    ∃ (good : RoleCounts) (m : ReplicaSet), good = ⟨1, 4294967295, 0⟩ ∧
      Content.decode "1,0,1,-1,2,,,,-1,-1" = .ok m ∧ good.verdict 3 m.broadcastCounts = true ∧
      checkWriteQuorum 3 m.broadcastCounts good = .error .addition ∧
      m.completesWrite 3 good = .error .addition ∧
      Command.answerCheckWrite "1,0,1,-1,2,,,,-1,-1" 3 good = .error (.overflow .addition) := by
  let good : RoleCounts := ⟨1, 4294967295, 0⟩
  let m : ReplicaSet := .ofRoster { version := ⟨1, 0⟩, primary := 1, secondaries := .ofList [2] }
  have content : Content.decode "1,0,1,-1,2,,,,-1,-1" = .ok m := by rfl
  have overflows : good.Overflows 3 m.broadcastCounts := by decide
  have failed : checkWriteQuorum 3 m.broadcastCounts good = .error .addition := by
    rw [checkWriteQuorum_eq, if_pos overflows]
  refine ⟨good, m, rfl, content, overflows.verdict_eq_true, failed, failed, ?_⟩
  rw [answerCheckWrite_eq content, if_pos overflows]

end ReplicaQuorum
