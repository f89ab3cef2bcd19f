import ReplicaQuorum.Form.Verdict
import ReplicaQuorum.Proofs.Form.Rule
import ReplicaQuorum.ReplicaSet.Broadcast
import ReplicaQuorum.ReplicaSet.Content

/-!
# Acknowledged writes

On whose answers a create or a commit rests that succeeds. The forms of three members ask for the
primary or, behind a primary that is down, for a secondary or a joining secondary. The forms of
volumes with five members ask all members to have written that were asked to. That is nobody in a
round whose total was never set, and such a round succeeds before anybody has answered.
-/

namespace ReplicaQuorum

/-- What a write merge looks at. -/
def Tally.ofWriters (v : VolumeType) (primary secondaries joining : UInt32) (r : Round) : Tally :=
  (Tally.ofCounts v primary secondaries joining 0).observe r

namespace Rule

variable {t : Tally}

/-- All members that were asked to write have done so. -/
def allWritten : Rule :=
  exactly [.primary, .secondary, .joining] .totalWrite

/-- All members have written if their numbers sum up to the total. -/
lemma allWritten_iff : allWritten.Sat t ↔
    t.primary.toNat + t.secondary.toNat + t.joining.toNat = t.totalWrite.toNat := by
  rw [Nat.add_assoc]
  exact Iff.rfl

end Rule

namespace Form

variable {f : Form} {v : VolumeType} {t : Tally} {r : Round} {primary secondaries joining : UInt32}

/-- A write merge is the rule of the form on the members that wrote. -/
lemma mergeWrite_value : (f.mergeWrite v primary secondaries joining r).value
    = f.policy.writeMerge.holds (.ofWriters v primary secondaries joining r) := by
  rw [mergeWrite, Tally.ofWriters]
  generalize f.policy.writeMerge.holds _ = verdict
  rcases verdict with o | _ | _ <;> rfl

/-- A look at a write asks the rule for a resend and adds its verdict to the round. -/
lemma progressWrite_value : (f.progressWrite v primary secondaries joining r).value
    = (f.policy.writeResend.holds (.ofWriters v primary secondaries joining r)).map
        fun resend => { r with resendDirectly := r.resendDirectly || resend } := by
  rw [progressWrite, Tally.ofWriters]
  generalize f.policy.writeResend.holds _ = verdict
  rcases verdict with o | _ | _
  · rfl
  · simp [Except.map]
  · simp [Except.map]

/-- Forms of five members want every member that was asked to write. -/
lemma writeMerge_of_five (five : f ∈ fiveMember) : f.policy.writeMerge = .allWritten := by
  revert five
  cases f <;> decide

/-- A form of three members asks for the primary, or for a secondary or a joining secondary. -/
lemma one_le_of_sat_writeMerge (three : f ∉ fiveMember) (quorum : 1 ≤ t.writeQuorum.toNat)
    (sat : f.policy.writeMerge.Sat t) :
    1 ≤ t.primary.toNat + t.secondary.toNat + t.joining.toNat := by
  have of_alive (alive : Rule.primaryAlive.Sat t) :
      1 ≤ t.primary.toNat + t.secondary.toNat + t.joining.toNat :=
    Nat.le_add_right_of_le (Nat.le_add_right_of_le alive)
  cases f
  case pss =>
    rcases sat with ⟨-, (enough : t.writeQuorum.toNat ≤ t.secondary.toNat)⟩ | ⟨-, alive, -⟩
    · omega
    · exact of_alive alive
  case psj =>
    rcases sat with
      ⟨-, (enough : t.writeQuorum.toNat ≤ t.secondary.toNat + t.joining.toNat)⟩ | ⟨-, alive, -⟩
    · omega
    · exact of_alive alive
  case psa =>
    rcases sat with ⟨-, (reader : 1 ≤ t.secondary.toNat)⟩ | ⟨-, alive, -⟩
    · omega
    · exact of_alive alive
  -- the other rules ask for the primary, or never hold
  case psi | pji | pj | pja | tpj | ps | tps => exact of_alive sat.2.1
  case pii | pia | tpi | pi | pa => exact of_alive sat.2
  case pjj => exact sat.elim
  all_goals exact absurd (by decide) three

/-- Where nobody was asked to write, a form of five members takes the write for done. -/
lemma mergeWrite_of_nobody (five : f ∈ fiveMember) (nobody : r.totalWrite = 0) :
    (f.mergeWrite v 0 0 0 r).value = .ok true := by
  have fits : Rule.allWritten.Fits (.ofWriters v 0 0 0 r) := by
    intro terms named
    cases List.mem_singleton.1 named
    exact show 0 < UInt32.size by decide
  rw [mergeWrite_value, writeMerge_of_five five, Rule.holds_eq_true_iff fits, Rule.allWritten_iff]
  exact congrArg UInt32.toNat nobody.symm

/-- In a round no write succeeds without an answer, whatever the counts, exactly if somebody was
asked to write or the form is one of three members. -/
theorem writes_acknowledged_iff :
    (∀ primary secondaries joining,
      (f.mergeWrite v primary secondaries joining r).value = .ok true →
        1 ≤ primary.toNat + secondaries.toNat + joining.toNat) ↔
      (f ∈ fiveMember → r.totalWrite ≠ 0) := by
  constructor
  · intro acknowledged five nobody
    exact absurd (acknowledged 0 0 0 (mergeWrite_of_nobody five nobody)) (by decide)
  · intro asked primary secondaries joining success
    rw [mergeWrite_value] at success
    have sat := (Rule.eq_true_iff_sat success).1 rfl
    by_cases five : f ∈ fiveMember
    · rw [writeMerge_of_five five, Rule.allWritten_iff] at sat
      have some : r.totalWrite.toNat ≠ 0 := fun zero => asked five (UInt32.toNat_inj.1 zero)
      exact Nat.one_le_iff_ne_zero.2 fun none => some (sat.symm.trans none)
    · have quorum : 1 ≤ v.writeQuorum.toNat := by cases v <;> decide
      exact one_le_of_sat_writeMerge five quorum sat

/-- In a large volume a write succeeds although none of the three members that take part in the
round has answered, and does not once all of them have. -/
theorem write_without_answer :
    ∃ (m : ReplicaSet) (r : Round),
      Content.decode "1,0,1,-1,2:3,4:5,,,-1,-1" = .ok m ∧ m.form .large = .ok .pssaa ∧
      r.participants.map (fun p => (p.id, p.status))
        = [(1, .primary), (2, .secondary), (3, .secondary)] ∧
      r.totalWrite = 0 ∧
      (pssaa.mergeWrite .large 0 0 0 r).value = .ok true ∧
      (pssaa.mergeWrite .large 1 2 0 r).value = .ok false := by
  let m : ReplicaSet := .ofRoster
    { version := ⟨1, 0⟩, primary := 1, secondaries := .ofList [2, 3], arbiters := .ofList [4, 5] }
  let r : Round := ({} : Round)
    |>.add ⟨1, ⟨"first", 1⟩, .primary, none⟩
    |>.add ⟨2, ⟨"second", 1⟩, .secondary, none⟩
    |>.add ⟨3, ⟨"third", 1⟩, .secondary, none⟩
  exact ⟨m, r, by rfl, by rfl, by rfl, by rfl, by rfl, by rfl⟩

end Form

end ReplicaQuorum
