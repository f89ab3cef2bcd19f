import ReplicaQuorum.Proofs.Form.Monotone
import ReplicaQuorum.Proofs.Form.Read

/-!
# Late answers

A coordinator asks for the verdict on a round while answers still arrive. Another good answer never
takes a success back. Almost all rules for a success compare sums from below, and what chooses
between two of them is a flag of the round. Two rules ask for an exact number. The one for the
writes of volumes with five members is met once all have written that were asked to, and the one for
reads once all have answered that the form has room for, so no further answer can arrive.
-/

namespace ReplicaQuorum

/-! ## Growing answers -/

namespace Tally.Grows

variable {t u : Tally} {v : VolumeType} {r : Round} {p s j a p' s' j' a' : UInt32}
  {readers readers' : ReaderCounts}

/-- What a round has to say does not depend on the counts. -/
lemma observe (grows : t.Grows u) (r : Round) : (t.observe r).Grows (u.observe r) where
  quorum := grows.quorum
  total := rfl
  flag flag := by cases flag <;> rfl
  term term := by
    rw [Rule.term_observe, Rule.term_observe]
    exact grows.term term

/-- Of a write that is answered by more members, no less is counted. -/
lemma ofWriters (hp : p ≤ p') (hs : s ≤ s') (hj : j ≤ j') :
    (Tally.ofWriters v p s j r).Grows (.ofWriters v p' s' j' r) :=
  (Tally.Grows.ofCounts v hp hs hj (UInt32.le_refl 0)).observe r

/-- Of a read that is answered by more members, no less is counted, as long as the readers fit a
count. -/
lemma ofReaders (hp : p ≤ p') (fetched : readers.fetch ≤ readers'.fetch)
    (checked : readers.check ≤ readers'.check) (hj : j ≤ j') (ha : a ≤ a')
    (fits : readers'.fetch.toNat + readers'.check.toNat < UInt32.size) :
    readers.fetch.toNat + readers.check.toNat < UInt32.size ∧
      (Tally.ofReaders v p readers j a r).Grows (.ofReaders v p' readers' j' a' r) := by
  have fewer := Nat.add_le_add (UInt32.le_iff_toNat_le.1 fetched) (UInt32.le_iff_toNat_le.1 checked)
  have before := Nat.lt_of_le_of_lt fewer fits
  have total : readers.fetch + readers.check ≤ readers'.fetch + readers'.check := by
    rw [UInt32.le_iff_toNat_le, Form.toNat_readers before, Form.toNat_readers fits]
    exact fewer
  have counts := Tally.Grows.ofCounts v hp total hj ha
  refine ⟨before, rfl, rfl, fun flag => by cases flag <;> rfl, fun term => ?_⟩
  cases term with
  | fetch => exact UInt32.le_iff_toNat_le.1 fetched
  | primary => exact counts.term .primary
  | secondary => exact counts.term .secondary
  | joining => exact counts.term .joining
  | arbiter => exact counts.term .arbiter

end Tally.Grows

/-! ## Rules that stay met -/

namespace Rule

variable {t u : Tally} {rule : Rule}

/-- The comparisons of the rule are from below, and no count chooses among them. -/
def accrues : Rule → Bool
  | both first second | either first second => first.accrues && second.accrues
  | when condition yes no =>
    condition.follows .rising && condition.follows .falling && (yes.accrues && no.accrues)
  | rule => rule.follows .rising

/-- A rule that only counts from below still holds where no less is counted. -/
lemma sat_of_accrues (grows : t.Grows u) (accrues : rule.accrues) (sat : rule.Sat t) :
    rule.Sat u := by
  induction rule with
  | both first second ih₁ ih₂ =>
    obtain ⟨left, right⟩ := Bool.and_eq_true_iff.1 accrues
    exact ⟨ih₁ left sat.1, ih₂ right sat.2⟩
  | either first second ih₁ ih₂ =>
    obtain ⟨left, right⟩ := Bool.and_eq_true_iff.1 accrues
    exact sat.imp (ih₁ left) (ih₂ right)
  | when condition yes no _ ih₁ ih₂ =>
    obtain ⟨fixed, branches⟩ := Bool.and_eq_true_iff.1 accrues
    obtain ⟨rising, falling⟩ := Bool.and_eq_true_iff.1 fixed
    obtain ⟨left, right⟩ := Bool.and_eq_true_iff.1 branches
    have later : condition.Sat t → condition.Sat u := allows_of_follows grows rising
    have earlier : condition.Sat u → condition.Sat t := allows_of_follows grows falling
    exact sat.imp (And.imp later (ih₁ left)) (And.imp (mt earlier) (ih₂ right))
  | always | never | is | atLeast | fewer | exactly | not =>
    have stays : Trend.rising.Allows _ _ := allows_of_follows grows accrues
    exact stays sat

/-- A sum that has reached an exact number stays there if it cannot exceed it. -/
lemma sat_exactly_of_grows {terms : List Term} {bound : Bound} (grows : t.Grows u)
    (full : u.sum terms ≤ u.bound bound) (sat : (exactly terms bound).Sat t) :
    (exactly terms bound).Sat u := by
  refine Nat.le_antisymm full ?_
  calc u.bound bound
    _ = t.bound bound := grows.bound bound
    _ = t.sum terms := sat.symm
    _ ≤ u.sum terms := grows.sum terms

end Rule

namespace Form

variable {f : Form} {v : VolumeType} {t u : Tally} {r : Round} {m : ReplicaSet}
  {p s j a p' s' j' a' : UInt32} {readers readers' : ReaderCounts}

/-- The write merges of forms of three members count from below. -/
lemma accrues_writeMerge (three : f ∉ fiveMember) : f.policy.writeMerge.accrues := by
  revert three
  cases f <;> decide

/-- All read merges count from below but one, which wants an exact number. -/
lemma accrues_readMerge (inexact : f ≠ psjii) : f.policy.readMerge.accrues := by
  revert inexact
  cases f <;> decide

/-- A write that has succeeded still has with more good answers, of no more members than were asked
to write. -/
lemma written_stays (hp : p ≤ p') (hs : s ≤ s') (hj : j ≤ j')
    (asked : p'.toNat + s'.toNat + j'.toNat ≤ r.totalWrite.toNat)
    (success : (f.mergeWrite v p s j r).value = .ok true) :
    (f.mergeWrite v p' s' j' r).value = .ok true := by
  have grows := Tally.Grows.ofWriters (v := v) (r := r) hp hs hj
  have mem : f.policy.writeMerge ∈ f.policy.rules := List.mem_cons_self
  have fits : f.policy.writeMerge.Fits (.ofWriters v p' s' j' r) :=
    Rule.fits_observe.2 (fits_ofCounts mem (Nat.lt_of_le_of_lt asked r.totalWrite.toNat_lt))
  rw [mergeWrite_value] at success ⊢
  rw [Rule.holds_eq_true_iff fits]
  have sat := (Rule.eq_true_iff_sat success).1 rfl
  by_cases five : f ∈ fiveMember
  · -- as many have answered as were asked to write
    rw [writeMerge_of_five five] at sat ⊢
    rw [Nat.add_assoc] at asked
    exact Rule.sat_exactly_of_grows grows asked sat
  · exact Rule.sat_of_accrues grows (accrues_writeMerge five) sat

/-- The rule for reads stays met while no more members answer than the form has room for. -/
lemma sat_readMerge_of_grows (grows : t.Grows u) (seated : f.Seated u)
    (sat : f.policy.readMerge.Sat t) : f.policy.readMerge.Sat u := by
  by_cases exact : f = psjii
  · -- the quorum of three takes everybody there is room for
    subst exact
    refine Rule.sat_exactly_of_grows grows ?_ sat
    show u.primary.toNat + (u.secondary.toNat + u.joining.toNat) ≤ u.writeQuorum.toNat
    obtain ⟨primary, secondaries, joining, -, -, quorum⟩ := seated
    calc u.primary.toNat + (u.secondary.toNat + u.joining.toNat)
      _ ≤ 1 + (psjii.letters 'S' + psjii.letters 'J') :=
        Nat.add_le_add primary (Nat.add_le_add secondaries joining)
      _ = 3 := by decide
      _ = u.writeQuorum.toNat := (congrArg UInt32.toNat quorum).symm
  · exact Rule.sat_of_accrues grows (accrues_readMerge exact) sat

/-- A read that has succeeded still has with more good answers, of no more members than there
are. -/
lemma read_stays (form : m.form v = .ok f) (hp : p ≤ p') (fetched : readers.fetch ≤ readers'.fetch)
    (checked : readers.check ≤ readers'.check) (hj : j ≤ j') (ha : a ≤ a') (one : p'.toNat ≤ 1)
    (alive : readers'.fetch.toNat + readers'.check.toNat ≤ m.secondaries.size)
    (joined : j'.toNat ≤ m.joining.size) (witnesses : a'.toNat ≤ m.arbiters.size)
    (success : f.mergeRead v p readers j a r = .ok true) :
    f.mergeRead v p' readers' j' a' r = .ok true := by
  obtain ⟨fits, seated⟩ := seated_ofReaders (r := r) form one alive joined witnesses
  obtain ⟨before, grows⟩ := Tally.Grows.ofReaders (v := v) (r := r) hp fetched checked hj ha fits
  rw [mergeRead_of_lt before] at success
  rw [mergeRead_of_lt fits, Rule.holds_eq_true_iff (fits_readMerge seated.sum_lt)]
  exact sat_readMerge_of_grows grows seated ((Rule.eq_true_iff_sat success).1 rfl)

/-- A later answer never revokes a success. A create or a commit that has succeeded by some good
answers has succeeded by more of them, as long as they come from members that were asked to write,
and a read by more of them from members of the replica set. -/
theorem success_stays (form : m.form v = .ok f) (r : Round) :
    (∀ p s j p' s' j' : UInt32, p ≤ p' → s ≤ s' → j ≤ j' →
      p'.toNat + s'.toNat + j'.toNat ≤ r.totalWrite.toNat →
        (f.mergeWrite v p s j r).value = .ok true → (f.mergeWrite v p' s' j' r).value = .ok true) ∧
    (∀ (p j a p' j' a' : UInt32) (readers readers' : ReaderCounts),
      p ≤ p' → readers.fetch ≤ readers'.fetch → readers.check ≤ readers'.check → j ≤ j' → a ≤ a' →
      p'.toNat ≤ 1 → readers'.fetch.toNat + readers'.check.toNat ≤ m.secondaries.size →
      j'.toNat ≤ m.joining.size → a'.toNat ≤ m.arbiters.size →
        f.mergeRead v p readers j a r = .ok true →
          f.mergeRead v p' readers' j' a' r = .ok true) := by
  constructor
  · intro p s j p' s' j' hp hs hj asked success
    exact written_stays hp hs hj asked success
  · intro p j a p' j' a' readers readers' hp fetched checked hj ha one alive joined witnesses
      success
    exact read_stays form hp fetched checked hj ha one alive joined witnesses success

/-- A regular volume writes with its primary and its secondary, and still does when its joining
secondary answers, too. It reads with the primary and the joining secondary, and still does when the
secondary returns data. -/
theorem success_stays_with_joining :
    ∃ (m : ReplicaSet) (r : Round),
      Content.decode "1,0,1,-1,2,,,3,-1,-1" = .ok m ∧ m.form .regular = .ok .psj ∧
      r.participants.map (fun p => (p.id, p.status))
        = [(1, .primary), (2, .secondary), (3, .joiningSecondary)] ∧
      ((0 : UInt32) ≤ 1 ∧ (1 : UInt32) ≤ 1 ∧ (0 : UInt32) ≤ 0 ∧
        (1 : UInt32).toNat + (1 : UInt32).toNat + (1 : UInt32).toNat ≤ r.totalWrite.toNat ∧
        (1 : UInt32).toNat ≤ 1 ∧ (1 : UInt32).toNat + (0 : UInt32).toNat ≤ m.secondaries.size ∧
        (1 : UInt32).toNat ≤ m.joining.size ∧ (0 : UInt32).toNat ≤ m.arbiters.size) ∧
      ((psj.mergeWrite .regular 1 1 0 r).value = .ok true ∧
        (psj.mergeWrite .regular 1 1 1 r).value = .ok true) ∧
      psj.mergeRead .regular 1 ⟨0, 0⟩ 1 0 r = .ok true ∧
      psj.mergeRead .regular 1 ⟨1, 0⟩ 1 0 r = .ok true := by
  let m : ReplicaSet := .ofRoster
    { version := ⟨1, 0⟩, primary := 1, secondaries := .ofList [2], joining := .ofList [3] }
  let asked : Round := { totalWrite := 3 }
  let r : Round := asked
    |>.add ⟨1, ⟨"first", 1⟩, .primary, some .check⟩
    |>.add ⟨2, ⟨"second", 1⟩, .secondary, some .fetch⟩
    |>.add ⟨3, ⟨"third", 1⟩, .joiningSecondary, some .check⟩
  have content : Content.decode "1,0,1,-1,2,,,3,-1,-1" = .ok m := by rfl
  have form : m.form .regular = .ok .psj := by rfl
  have more : (0 : UInt32) ≤ 1 := by decide
  have one : (1 : UInt32) ≤ 1 := by decide
  have none : (0 : UInt32) ≤ 0 := by decide
  have total : (1 : UInt32).toNat + (1 : UInt32).toNat + (1 : UInt32).toNat
    ≤ r.totalWrite.toNat := by decide
  have single : (1 : UInt32).toNat ≤ 1 := by decide
  have alive : (1 : UInt32).toNat + (0 : UInt32).toNat ≤ m.secondaries.size := by decide
  have joined : (1 : UInt32).toNat ≤ m.joining.size := by decide
  have witnesses : (0 : UInt32).toNat ≤ m.arbiters.size := by decide
  have written : (psj.mergeWrite .regular 1 1 0 r).value = .ok true := by rfl
  have read : psj.mergeRead .regular 1 ⟨0, 0⟩ 1 0 r = .ok true := by rfl
  obtain ⟨writes, reads⟩ := success_stays form r
  exact ⟨m, r, content, form, by rfl,
    ⟨more, one, none, total, single, alive, joined, witnesses⟩,
    ⟨written, writes 1 1 0 1 1 1 one one more total written⟩,
    read, reads 1 1 0 1 1 0 ⟨0, 0⟩ ⟨1, 0⟩ one more none one none single alive joined witnesses read⟩

end Form

end ReplicaQuorum
