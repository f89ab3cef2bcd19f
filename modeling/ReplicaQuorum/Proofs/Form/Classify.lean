import Mathlib.Tactic.IntervalCases
import ReplicaQuorum.ReplicaSet.Broadcast

/-!
# The classification table

A volume type has a form for every layout of full size, with no more secondaries and arbiters than
it asks for. The letters of a form tell how many members of each role in use a replica set of that
form has, how many of the inactive ones have a slot, and whether the volume has three or five
members.
-/

namespace ReplicaQuorum

namespace Form

/-- The number of members that a letter of the form stands for. -/
def letters (f : Form) (letter : Char) : Nat :=
  f.name.toList.count letter

/-- The letters of the form stand for so many members of each role in use. -/
structure Seats (f : Form) (secondaries joining arbiters : Nat) : Prop where
  secondaries : secondaries = f.letters 'S'
  joining : joining = f.letters 'J'
  arbiters : arbiters = f.letters 'A'

end Form

namespace VolumeType

variable {v : VolumeType} {f : Form} {s j a i : Nat}

/-- There is a form for every layout of full size. -/
lemma exists_classify (data : s + j ≤ v.shape.secondaries.toNat)
    (witnesses : a ≤ v.shape.arbiters.toNat)
    (full : 1 + s + a + i + j = v.shape.members.toNat) : ∃ f, v.classify s j a i = some f := by
  rw [← Option.isSome_iff_exists]
  -- the inactive members are the ones the others leave, so that few layouts remain
  cases v with
  | regular =>
    have data : s + j ≤ 2 := data
    have witnesses : a ≤ 0 := witnesses
    have full : 1 + s + a + i + j = 3 := full
    obtain ⟨rfl, rfl⟩ : a = 0 ∧ i = 2 - s - j := by omega
    have secondaries : s ≤ 2 := by omega
    have joining : j ≤ 2 - s := by omega
    interval_cases s <;> interval_cases j <;> rfl
  | small =>
    have data : s + j ≤ 1 := data
    have witnesses : a ≤ 1 := witnesses
    have full : 1 + s + a + i + j = 3 := full
    obtain rfl : i = 2 - s - j - a := by omega
    have secondaries : s ≤ 1 := by omega
    have joining : j ≤ 1 - s := by omega
    interval_cases a <;> interval_cases s <;> interval_cases j <;> rfl
  | large =>
    have data : s + j ≤ 2 := data
    have witnesses : a ≤ 2 := witnesses
    have full : 1 + s + a + i + j = 5 := full
    obtain rfl : i = 4 - s - j - a := by omega
    have secondaries : s ≤ 2 := by omega
    have joining : j ≤ 2 - s := by omega
    interval_cases a <;> interval_cases s <;> interval_cases j <;> rfl

/-! ## What a form tells -/

/-- A form of a regular volume spells every member of the layout, the inactive ones included. -/
lemma row_of_classifyRegular (listed : classifyRegular s j a i = some f) :
    f.Seats s j a ∧ f.letters 'I' = i ∧ f.letters 'T' = 0 ∧ f ∉ Form.fiveMember := by
  revert listed
  fun_cases classifyRegular s j a i <;> intro listed <;> cases listed
  all_goals exact ⟨⟨by decide, by decide, by decide⟩, by decide, by decide, by decide⟩

/-- Down to two copies there is one slot less. -/
lemma row_of_classifySmall (listed : classifySmall s j a i = some f) :
    f.Seats s j a ∧ f.letters 'I' = min i (2 - f.letters 'T' - (s + j + a)) ∧
      f ∉ Form.fiveMember := by
  revert listed
  fun_cases classifySmall s j a i <;> intro listed <;> cases listed
  all_goals refine ⟨⟨by decide, by decide, by decide⟩, ?_, by decide⟩
  -- the rows that take any number of inactive members leave no slot to them
  case case2 => exact (Nat.min_zero i).symm
  case case4 => exact (Nat.min_zero i).symm
  all_goals decide

/-- A form of a large volume spells every member of the layout, the inactive ones included. -/
lemma row_of_classifyLarge (listed : classifyLarge s j a i = some f) :
    f.Seats s j a ∧ f.letters 'I' = i ∧ f.letters 'T' = 0 ∧ f ∈ Form.fiveMember := by
  revert listed
  fun_cases classifyLarge s j a i <;> intro listed <;> cases listed
  all_goals exact ⟨⟨by decide, by decide, by decide⟩, by decide, by decide, by decide⟩

/-- The form of a layout tells the members in use, the inactive ones up to the slots that the others
leave free, of which a leading T takes one, and the write quorum. No volume but a small one has a
form with a T. -/
lemma row_of_classify (listed : v.classify s j a i = some f) :
    f.Seats s j a ∧ f.letters 'I' = min i (v.slots - f.letters 'T' - (s + j + a)) ∧
      (v ≠ .small → f.letters 'T' = 0) ∧
      v.writeQuorum = if f ∈ Form.fiveMember then 3 else 2 := by
  simp only [classify] at listed
  by_cases full : v.slots < s + j + a
  · rw [if_pos full] at listed
    cases listed
  · rw [if_neg full] at listed
    cases v with
    | regular =>
      obtain ⟨seats, inactive, whole, three⟩ := row_of_classifyRegular listed
      refine ⟨seats, ?_, fun _ => whole, (if_neg three).symm⟩
      rw [inactive, whole, Nat.sub_zero]
    | small =>
      obtain ⟨seats, inactive, three⟩ := row_of_classifySmall listed
      have slots : slots small = 2 := rfl
      refine ⟨seats, ?_, fun other => absurd rfl other, (if_neg three).symm⟩
      rw [slots] at inactive ⊢
      omega
    | large =>
      obtain ⟨seats, inactive, whole, five⟩ := row_of_classifyLarge listed
      refine ⟨seats, ?_, fun _ => whole, (if_pos five).symm⟩
      rw [inactive, whole, Nat.sub_zero]

/-- The form of a layout tells the members in use and the write quorum. -/
lemma seats_of_classify (listed : v.classify s j a i = some f) :
    f.Seats s j a ∧ v.writeQuorum = if f ∈ Form.fiveMember then 3 else 2 := by
  obtain ⟨seats, -, -, quorum⟩ := row_of_classify listed
  exact ⟨seats, quorum⟩

/-! ## Word-sized counts -/

/-- Counts of members in use that fit a word are classified. -/
lemma classifyCounts_eq {s j a : UInt64} (i : UInt64)
    (fits : s.toNat + j.toNat + a.toNat < UInt64.size) :
    v.classifyCounts s j a i = .ok (v.classify s.toNat j.toNat a.toNat i.toNat) := by
  have data : advance64 s j.toNat = .ok (.ofNat (s.toNat + j.toNat)) := if_pos (by omega)
  have alive : advance64 (.ofNat (s.toNat + j.toNat)) a.toNat = _ := if_pos (by
    rw [UInt64.toNat_ofNat_of_lt' (by omega)]
    exact fits)
  simp only [classifyCounts, data, alive, bind, Except.bind]

end VolumeType

namespace ReplicaSet

variable {m : ReplicaSet} {v : VolumeType} {f : Form}

/-- There is no error exactly if there is a form. -/
lemma form_eq_ok_iff : m.form v = .ok f ↔ m.form? v = some f := by
  rw [form]
  cases m.form? v <;> simp

end ReplicaSet

namespace Form

/-- The form spells a layout under a volume type: its letters count the members in use of each role,
and the inactive ones up to the slots that the others leave free. They fall short of these only in a
small volume down to two copies, where the leading T stands for the slot that is gone. -/
structure Spells (f : Form) (v : VolumeType) (s j a i : Nat) : Prop where
  seats : f.Seats s j a
  inactive_le : f.letters 'I' ≤ min i (v.shape.members.toNat - 1 - s - j - a)
  inactive_eq : v ≠ .small → f.letters 'I' = min i (v.shape.members.toNat - 1 - s - j - a)
  inactive : f.letters 'I' = min i (v.shape.members.toNat - 1 - s - j - a - f.letters 'T')

/-- The form of a layout spells it. -/
lemma spells_of_classify {v : VolumeType} {f : Form} {s j a i : Nat}
    (listed : v.classify s j a i = some f) : f.Spells v s j a i := by
  obtain ⟨seats, inactive, whole, -⟩ := VolumeType.row_of_classify listed
  have slots : v.slots = v.shape.members.toNat - 1 := rfl
  refine ⟨seats, by omega, fun other => ?_, by omega⟩
  rw [inactive, whole other]
  omega

/-- A form spells the layout that is classified to it, whatever the counts are, as long as the
members in use fit a word. So it tells the members in use of every replica set of the form, and any
two of them have as many in each role. -/
theorem spells_layout (v : VolumeType) :
    (∀ s j a i : UInt64, s.toNat + j.toNat + a.toNat < UInt64.size →
      ∃ found, v.classifyCounts s j a i = .ok found ∧
        ∀ f ∈ found, f.Spells v s.toNat j.toNat a.toNat i.toNat) ∧
    (∀ (m : ReplicaSet) (f : Form), m.form v = .ok f →
      f.Spells v m.secondaries.size m.joining.size m.arbiters.size m.inactive.size) ∧
    (∀ (m n : ReplicaSet) (f : Form), m.form v = .ok f → n.form v = .ok f →
      m.secondaries.size = n.secondaries.size ∧ m.joining.size = n.joining.size ∧
        m.arbiters.size = n.arbiters.size) := by
  have spelled : ∀ (m : ReplicaSet) (f : Form), m.form v = .ok f →
      f.Spells v m.secondaries.size m.joining.size m.arbiters.size m.inactive.size :=
    fun m f formed => spells_of_classify (ReplicaSet.form_eq_ok_iff.1 formed)
  refine ⟨?_, spelled, ?_⟩
  · intro s j a i fits
    exact ⟨_, VolumeType.classifyCounts_eq i fits, fun f listed => spells_of_classify listed⟩
  · intro m n f first second
    have left := (spelled m f first).seats
    have right := (spelled n f second).seats
    exact ⟨left.secondaries.trans right.secondaries.symm, left.joining.trans right.joining.symm,
      left.arbiters.trans right.arbiters.symm⟩

/-- Of nine inactive members of a large volume one has a slot, and a small volume has one form for a
secondary with one inactive member and with two. -/
theorem spells_layout_capped :
    VolumeType.large.classifyCounts 1 1 1 9 = .ok (some psjai) ∧ psjai.Spells .large 1 1 1 9 ∧
      ∃ m n : ReplicaSet, m.form .small = .ok tps ∧ n.form .small = .ok tps ∧
        tps.Spells .small m.secondaries.size m.joining.size m.arbiters.size 1 ∧
        n.inactive.size = 2 ∧ m.secondaries.size = n.secondaries.size := by
  obtain ⟨counted, -⟩ := spells_layout .large
  obtain ⟨-, spelled, same⟩ := spells_layout .small
  obtain ⟨found, classified, spells⟩ := counted 1 1 1 9 (by decide)
  have listed : VolumeType.large.classifyCounts 1 1 1 9 = .ok (some psjai) := by rfl
  rw [listed] at classified
  cases classified
  let m : ReplicaSet := .ofRoster
    { version := ⟨1, 0⟩, primary := 1, secondaries := .ofList [2], inactive := .ofList [3] }
  let n : ReplicaSet := .ofRoster
    { version := ⟨1, 0⟩, primary := 1, secondaries := .ofList [2], inactive := .ofList [3, 4] }
  have first : m.form .small = .ok tps := by rfl
  have second : n.form .small = .ok tps := by rfl
  obtain ⟨secondaries, -⟩ := same m n tps first second
  exact ⟨listed, spells psjai rfl, m, n, first, second, spelled m tps first, rfl, secondaries⟩

end Form

end ReplicaQuorum
